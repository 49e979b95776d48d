import ReleaseStamp.Text.Lines
import ReleaseStamp.Manifest.Line

/-!
# Setting the version of a manifest

Two kinds of fields are set: the own version of a package table, and the versions of inline tables
on a line that has a `path` key. Only the text between the quotes changes, and only where it is a
version number already.
-/
namespace ReleaseStamp.Manifest

def setOwnVersion (version line : List Char) : List Char :=
  match ownVersion? line with
  | some field => field.fill version
  | none => line

def setInlineVersions (version line : List Char) : List Char :=
  match line with
  | [] => []
  | c :: rest =>
    match _h : inlineVersion? (c :: rest) with
    | some field =>
      field.before ++ '"' :: version ++ '"' :: setInlineVersions version field.after
    | none => c :: setInlineVersions version rest
termination_by line.length
decreasing_by
  · exact inlineVersion?_length ‹_›
  · simp

def isPathLine (line : List Char) : Bool := line.contains '\x7b' && hasPathKey line

/-- Sets the versions of a line that is no header. The inline tables are looked for in what the
first step has written. -/
def bumpLine (table version line : List Char) : List Char :=
  let line := if isPackageTable table then setOwnVersion version line else line
  if isPathLine line then setInlineVersions version line else line

def bumpLines (version : List Char) : List Char → List (List Char) → List Char
  | _, [] => []
  | table, line :: rest =>
    match tableName? line with
    | some name => line ++ bumpLines version name rest
    | none => bumpLine table version line ++ bumpLines version table rest

def bumpText (contents version : List Char) : List Char :=
  bumpLines version [] (Text.lines contents)

def bump (contents version : String) : String :=
  String.ofList (bumpText contents.toList version.toList)

end ReleaseStamp.Manifest
