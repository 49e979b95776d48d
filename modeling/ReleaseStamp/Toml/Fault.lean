import ReleaseStamp.Text.Quoted

/-!
# Faults of a document

What is wrong with a document, at which key, and at which place in the text. A place is counted in
bytes; a message gives it as a line and a column.
-/
namespace ReleaseStamp.Toml

inductive Problem where
  | unexpected (c : Char)
  /-- Another token is wanted than the one found. -/
  | wanted (expected found : String)
  | endOfInput
  /-- A word that is no value. -/
  | bareWord
  | badNumber
  | badDate
  | newlineInText
  | unterminatedText
  | controlInText (c : Char)
  | badEscape (c : Char)
  | badHexDigit (c : Char)
  /-- No character has this code point. -/
  | badCodePoint (code : Nat)
  | multilineKey
  /-- A dotted key goes through a value that is no table of dotted keys. -/
  | keyThroughValue
  | repeatedTable (name : String)
  | tableAsArray
  | wrongKind (found expected : String)
  | wrongLength (length : Nat) (expected : String)
  | repeatedField (name : String)
  | missingField (name : String)
deriving DecidableEq, Repr, Inhabited

namespace Problem

def tick (text : String) : String := "\x60" ++ text ++ "\x60"

def message : Problem → String
  | unexpected c => "unexpected character found: " ++ tick (Text.escapeAscii c)
  | wanted expected found => "expected " ++ expected ++ ", found " ++ found
  | endOfInput => "unexpected eof encountered"
  | bareWord => "invalid TOML value, did you mean to use a quoted string?"
  | badNumber => "invalid number"
  | badDate => "invalid date"
  | newlineInText => "newline in string found"
  | unterminatedText => "unterminated string"
  | controlInText c => "invalid character in string: " ++ tick (Text.escapeAscii c)
  | badEscape c => "invalid escape character in string: " ++ tick (Text.escapeAscii c)
  | badHexDigit c => "invalid hex escape character in string: " ++ tick (Text.escapeAscii c)
  | badCodePoint code => "invalid escape value: " ++ tick (toString code)
  | multilineKey => "multiline strings are not allowed for key"
  | keyThroughValue => "dotted key attempted to extend non-table type"
  | repeatedTable name => "redefinition of table " ++ tick name
  | tableAsArray => "table redefined as array"
  | wrongKind found expected => "invalid type: " ++ found ++ ", expected " ++ expected
  | wrongLength length expected =>
    "invalid length " ++ toString length ++ ", expected " ++ expected
  | repeatedField name => "duplicate field " ++ tick name
  | missingField name => "missing field " ++ tick name

end Problem

structure Fault where
  problem : Problem
  /-- The keys that lead to the problem. -/
  keys : List String := []
  /-- The place in the text, if the problem has one of its own. -/
  offset : Option Nat := none
deriving DecidableEq, Repr, Inhabited

namespace Fault

def under (key : String) (fault : Fault) : Fault := { fault with keys := key :: fault.keys }

def placed (offset : Option Nat) (fault : Fault) : Fault :=
  { fault with offset := fault.offset <|> offset }

/-- The number of the line that holds a place, and the place in that line, both from zero on. A
place behind the last line is at the start of another one. -/
def lineColumn (line : Nat) (offset : Nat) : List String → Nat × Nat
  | [] => (line, 0)
  | text :: rest =>
    if offset < text.utf8ByteSize + 1 then (line, offset)
    else lineColumn (line + 1) (offset - (text.utf8ByteSize + 1)) rest

def documentLines (document : String) : List String :=
  let lines := document.splitOn "\n"
  if lines.getLast? == some "" then lines.dropLast else lines

def placeText (document : String) (offset : Nat) : String :=
  let (line, column) := lineColumn 0 offset (documentLines document)
  " at line " ++ toString (line + 1) ++ " column " ++ toString (column + 1)

def message (document : String) (fault : Fault) : String :=
  fault.problem.message
    ++ (if fault.keys.isEmpty then ""
      else " for key " ++ Problem.tick (String.intercalate "." fault.keys))
    ++ (fault.offset.map (placeText document)).getD ""

end Fault

end ReleaseStamp.Toml
