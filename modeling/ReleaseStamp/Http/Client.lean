import ReleaseStamp.Http.Url

/-!
# Clients

A client asks for web addresses, and tells how each exchange ends. Nothing is assumed of it, nor of
the servers it talks to; redirects and the decoding of texts are its own matter.
-/
namespace ReleaseStamp.Http

structure Request where
  scheme : String
  host : String
  port : Option Nat
  /-- The path and the query that are asked for. -/
  target : String
deriving DecidableEq, Repr, Inhabited

/-- The answer that an exchange ends with. There may be no text in it, but a message why. -/
structure Answer where
  status : Nat
  text : Except String String
deriving Inhabited

def Answer.isSuccess (answer : Answer) : Bool := 200 ≤ answer.status && answer.status ≤ 299

/-- Asks for an address after the requests made before. Gives the answer, or a message why there is
none, and all requests that have been made then. -/
abbrev Client := List Request → String → Except String Answer × List Request

inductive Failure where
  /-- The text is no absolute address. -/
  | notAddress
  /-- The address is none that requests are made to. -/
  | notWeb (url : Url)
  | unreachable (url : Url)
deriving DecidableEq, Repr, Inhabited

def Failure.message : Failure → String
  | notAddress => "builder error"
  | notWeb url => "builder error for url (" ++ url.text ++ ")"
  | unreachable url => "error sending request for url (" ++ url.text ++ ")"

/-- Drops user and password, which a request tells in another way. A user name that is no text is
left where it stands. -/
def Url.withoutUser (url : Url) : Url :=
  match Percent.decodeText? url.user.1 with
  | none => url
  | some name =>
    if name.isEmpty && (url.user.2.bind Percent.decodeText?).isNone then url
    else { url with user := ("", none) }

def isHostChar (c : Char) : Bool := c.isAlphanum || "!$&'()*+,-.:;=[]_~".contains c

def longestAddress : Nat := 65534

def Url.isRequestable (url : Url) : Bool :=
  (url.scheme == "http" || url.scheme == "https") && (url.host.getD "").toList.all isHostChar
    && url.text.utf8ByteSize ≤ longestAddress

def failureOf (text : String) : Failure :=
  match Url.parse? text with
  | none => .notAddress
  | some url =>
    let url := url.withoutUser
    if url.isRequestable then .unreachable url else .notWeb url

/-- The client where there is no connection: no exchange has an answer. -/
def Network.silent : Client := fun requests text => (.error (failureOf text).message, requests)

end ReleaseStamp.Http
