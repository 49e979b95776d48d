/-!
# Errors

What can stop a run, and its message. Errors are ordered by their kind, then by their text.
-/
namespace ReleaseStamp

inductive Error where
  /-- A file cannot be read or written. -/
  | file (text : String)
  /-- The tree cannot be walked. -/
  | walk (text : String)
  /-- The project has no version. -/
  | version (text : String)
  /-- A checksum cannot be had. -/
  | checksum (text : String)
  /-- The configuration cannot be read. -/
  | config (text : String)
deriving DecidableEq, Repr, Inhabited

namespace Error

def message : Error → String
  | file text => "Failed to read/write a file! Error: " ++ text
  | walk text => "Failed to walk the source tree! Error: " ++ text
  | version text => "Failed to determine the project version! Error: " ++ text
  | checksum text => "Failed to fetch the rustup checksum! Error: " ++ text
  | config text => "Failed to load the configuration! Error: " ++ text

def text : Error → String
  | file text | walk text | version text | checksum text | config text => text

def rank : Error → Nat
  | file _ => 0
  | walk _ => 1
  | version _ => 2
  | checksum _ => 3
  | config _ => 4

def compare (a b : Error) : Ordering :=
  (Ord.compare a.rank b.rank).then (Ord.compare a.text b.text)

def sort (errors : List Error) : List Error :=
  errors.mergeSort fun a b => (a.compare b).isLE

end Error

end ReleaseStamp
