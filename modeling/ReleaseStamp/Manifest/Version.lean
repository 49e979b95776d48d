import ReleaseStamp.Text.Digit

/-!
# Version numbers

Three numbers with points between them, then possibly a `-` or a `+` and a suffix.
-/
namespace ReleaseStamp.Manifest

def isSuffixChar (c : Char) : Bool :=
  c.isAlphanum || c == '.' || c == '+' || c == '-'

def dropNumber (text : List Char) : Option (List Char) :=
  if (text.takeWhile Text.isDigit).isEmpty then none else some (text.dropWhile Text.isDigit)

def dropPoint : List Char → Option (List Char)
  | '.' :: rest => some rest
  | _ => none

def dropNumbers (text : List Char) : Option (List Char) := do
  let text ← dropNumber text
  let text ← dropPoint text
  let text ← dropNumber text
  let text ← dropPoint text
  dropNumber text

def isSuffix : List Char → Bool
  | [] => true
  | c :: rest => (c == '-' || c == '+') && rest.all isSuffixChar

def isVersion (text : List Char) : Bool :=
  match dropNumbers text with
  | some rest => isSuffix rest
  | none => false

end ReleaseStamp.Manifest
