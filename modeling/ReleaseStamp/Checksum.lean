import ReleaseStamp.Http.Client
import ReleaseStamp.Http.Status
import ReleaseStamp.Session
import ReleaseStamp.Text.Space

/-!
# Checksums

The checksum of the toolchain's installer for a version and a target. A source gives it: a fixed
table, or an archive on the web with one checksum file for each version and target.
-/
namespace ReleaseStamp.Checksum

def firstToken (body : String) : Except Error String :=
  match Text.firstWord body.toList with
  | [] => .error (.checksum "Got an empty checksum file")
  | token => .ok (String.ofList token)

def url (base version target : String) : String :=
  String.ofList (Text.dropTrailing '/' base.toList) ++ "/" ++ version ++ "/" ++ target
    ++ "/rustup-init.sha256"

def ofAnswer (url : String) (answer : Http.Answer) : Except Error String :=
  if answer.isSuccess then
    match answer.text with
    | .ok body => firstToken body
    | .error message => .error (.checksum message)
  else .error (.checksum (url ++ " answered with HTTP " ++ Http.Status.text answer.status))

def ofExchange (url : String) : Except String Http.Answer → Except Error String
  | .ok answer => ofAnswer url answer
  | .error message => .error (.checksum message)

inductive Source where
  | table (answer : String → String → Except Error String)
  | archive (client : Http.Client) (base : String)

def download (client : Http.Client) (base version target : String) : Job String := do
  let url := url base version target
  Job.note .debug .checksum ("GET: " ++ url)
  let session ← get
  let (exchange, requests) := client session.requests url
  set { session with requests }
  let hash ← MonadExcept.ofExcept (ofExchange url exchange)
  Job.note .debug .checksum ("Hash of rustup-init for " ++ target ++ ": " ++ hash)
  return hash

def fetch (source : Source) (version target : String) : Job String := do
  modify fun session => { session with calls := session.calls ++ [(version, target)] }
  match source with
  | .table answer => MonadExcept.ofExcept (answer version target)
  | .archive client base => download client base version target

end ReleaseStamp.Checksum
