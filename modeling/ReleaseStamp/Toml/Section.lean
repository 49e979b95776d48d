import ReleaseStamp.Toml.Value

/-!
# Sections of a document

A document is a list of sections. Each has a header, but for the first one if entries come before
the first header.
-/
namespace ReleaseStamp.Toml

structure Section where
  /-- The place of the header. -/
  start : Nat := 0
  header : List String := []
  /-- Is the header in double brackets, as for an element of an array of tables? -/
  isElement : Bool := false
  entries : List (String × Value) := []
deriving Repr, Inhabited

namespace Reader

def header (count : Nat) : Reader Section := do
  let start ← offset
  expect .leftBracket
  let isElement ← eat .leftBracket
  skipBlanks
  let parts ← dottedKey count
  expect .rightBracket
  if isElement then expect .rightBracket
  skipBlanks
  unless ← eatComment do endLine
  return { start, header := parts, isElement }

def entry (count : Nat) : Reader (List String × Value) := do
  let key ← dottedKey count
  skipBlanks
  expect .equals
  skipBlanks
  let value ← value (2 * count)
  skipBlanks
  unless ← eatComment do endLine
  return (key, value)

/-- Reads the sections that follow, of less than `count` characters. The section that is being read
comes first, if one is. -/
def sections : Nat → Option Section → Reader (List Section)
  | 0, current => return current.toList
  | count + 1, current => do
    skipLines (count + 1)
    match ← peek with
    | none => return current.toList
    | some .leftBracket =>
      let begun ← header count
      return current.toList ++ (← sections count (some begun))
    | some _ =>
      let (key, value) ← entry (count + 1)
      let current := current.getD {}
      let entries ← Value.insert value key current.entries
      sections count (some { current with entries })

end Reader

def sectionsOf (document : String) : Except Fault (List Section) := do
  let cursor := Cursor.ofDocument document
  let (sections, _) ← (Reader.sections (cursor.rest.length + 1) none).run cursor
  return sections

end ReleaseStamp.Toml
