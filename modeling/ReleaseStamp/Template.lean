import ReleaseStamp.Placeholder
import ReleaseStamp.Session

/-!
# Templates

A named text with placeholders, or what is left after filling them. Filling warns of the
placeholders that are left over.
-/
namespace ReleaseStamp

structure Template where
  name : String
  inner : String
deriving DecidableEq, Repr, Inhabited

namespace Template

def filled (template : Template) (name : String) (tokens : List (String × String)) : Template :=
  ⟨name, Placeholder.fill template.inner tokens⟩

def warning? (template : Template) : Option String :=
  match Placeholder.leftovers template.inner with
  | [] => none
  | leftovers =>
    some (template.name ++ " still contains unknown placeholders after rendering: "
      ++ String.intercalate ", " leftovers)

def nameOf (path : Path) : String := ((Path.fileName? path).map Path.shown).getD ""

def load (path : Path) : Job Template := do
  let inner ← Job.readText path
  return ⟨nameOf path, inner⟩

def fill (template : Template) (name : String) (tokens : List (String × String)) :
    Job Template := do
  let result := template.filled name tokens
  if let some message := result.warning? then Job.note .warn .template message
  return result

def write (template : Template) (path : Path) : Job Unit := do
  Job.writeText path template.inner
  Job.note .info .project ("Wrote " ++ template.name ++ " to " ++ path.shown)

end Template

end ReleaseStamp
