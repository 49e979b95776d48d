import ReleaseStamp.Text.Replace
import ReleaseStamp.Text.Space

/-!
# Placeholders

A placeholder is a name between two pairs of percent signs. Filling replaces the placeholders of a
list of tokens one token after the other, so a value may bring placeholders of later tokens. What
looks like a placeholder and is still there afterwards is left over.
-/
namespace ReleaseStamp.Placeholder

def isNameChar (c : Char) : Bool := c.isAlphanum || c == '_' || c == '-'

def mark (token : List Char) : List Char := '%' :: '%' :: token ++ ['%', '%']

def fillText (text : List Char) (tokens : List (List Char × List Char)) : List Char :=
  tokens.foldl (fun text (token, value) => Text.replaceAll (mark token) value text) text

def fill (text : String) (tokens : List (String × String)) : String :=
  String.ofList (fillText text.toList (tokens.map fun (token, value) =>
    (token.toList, value.toList)))

def split? : List Char → Option (List Char × List Char)
  | '%' :: '%' :: rest =>
    let name := rest.takeWhile isNameChar
    match rest.dropWhile isNameChar with
    | '%' :: '%' :: after => if name.isEmpty then none else some (name, after)
    | _ => none
  | _ => none

theorem split?_eq {text name after : List Char} (h : split? text = some (name, after)) :
    text = mark name ++ after ∧ name ≠ [] := by
  unfold split? at h
  split at h
  · rename_i rest
    simp only at h
    split at h
    · rename_i tail eq
      split at h
      · cases h
      · rename_i named
        simp only [Option.some.injEq, Prod.mk.injEq] at h
        obtain ⟨rfl, rfl⟩ := h
        have whole := List.takeWhile_append_dropWhile (p := isNameChar) (l := rest)
        rw [eq] at whole
        exact ⟨by simp [mark, whole], by simpa using named⟩
    · cases h
  · cases h

theorem split?_length {text name after : List Char} (h : split? text = some (name, after)) :
    after.length < text.length := by
  rw [(split?_eq h).1]
  simp [mark]
  omega

/-- The placeholders of a text from left to right; none overlaps the one before it. -/
def occurrences (text : List Char) : List (List Char) :=
  match text with
  | [] => []
  | c :: rest =>
    match _h : split? (c :: rest) with
    | some (name, after) => mark name :: occurrences after
    | none => occurrences rest
termination_by text.length
decreasing_by
  · exact split?_length ‹_›
  · simp

def dropRepeats : List String → List String
  | a :: b :: rest => if a = b then dropRepeats (b :: rest) else a :: dropRepeats (b :: rest)
  | items => items

def leftovers (text : String) : List String :=
  dropRepeats (((occurrences text.toList).map String.ofList).mergeSort (· ≤ ·))

end ReleaseStamp.Placeholder
