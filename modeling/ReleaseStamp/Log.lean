/-!
# Log records

What a run tells about itself: a level, the part that speaks, and a message.
-/
namespace ReleaseStamp.Log

inductive Level where
  | error
  | warn
  | info
  | debug
deriving DecidableEq, Repr, Inhabited

namespace Level

def name : Level → String
  | error => "ERROR"
  | warn => "WARN"
  | info => "INFO"
  | debug => "DEBUG"

def rank : Level → Nat
  | error => 0
  | warn => 1
  | info => 2
  | debug => 3

def shows (limit level : Level) : Bool := level.rank ≤ limit.rank

end Level

inductive Speaker where
  /-- The version file and the walk. -/
  | tree
  | manifest
  | template
  | project
  | checksum
  | commandLine
deriving DecidableEq, Repr, Inhabited

def Speaker.label : Speaker → String
  | tree => "libbuildsync::helpers"
  | manifest => "libbuildsync::manifest"
  | template => "libbuildsync::types"
  | project => "libbuildsync::tmplwriter"
  | checksum => "libbuildsync::checksum"
  | commandLine => "buildsync"

structure Record where
  level : Level
  speaker : Speaker
  message : String
deriving DecidableEq, Repr, Inhabited

namespace Record

def brief (record : Record) : String := record.level.name ++ " " ++ record.message

def levelWidth : Nat := 5

def line (record : Record) : String :=
  let level := record.level.name
  "[" ++ level ++ String.ofList (List.replicate (levelWidth - level.length) ' ') ++ " "
    ++ record.speaker.label ++ "] " ++ record.message ++ "\n"

end Record

def written (limit : Level) (records : List Record) : String :=
  String.join ((records.filter (limit.shows ·.level)).map Record.line)

end ReleaseStamp.Log
