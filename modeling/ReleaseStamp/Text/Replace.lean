/-!
# Replacing every occurrence

Occurrences are found from left to right and never overlap. The empty pattern occurs before each
character and at the end.
-/
namespace ReleaseStamp.Text

/-- Replaces a nonempty `pattern`. The first `skip` characters belong to an occurrence that has
been replaced already. -/
def replaceFrom (pattern value : List Char) : Nat → List Char → List Char
  | _, [] => []
  | skip + 1, _ :: rest => replaceFrom pattern value skip rest
  | 0, c :: rest =>
    if pattern.isPrefixOf (c :: rest) then
      value ++ replaceFrom pattern value (pattern.length - 1) rest
    else c :: replaceFrom pattern value 0 rest

def replaceAll (pattern value text : List Char) : List Char :=
  if pattern.isEmpty then text.foldr (fun c rest => value ++ c :: rest) value
  else replaceFrom pattern value 0 text

@[simp] theorem replaceFrom_nil (pattern value : List Char) (skip : Nat) :
    replaceFrom pattern value skip [] = [] := by
  cases skip <;> rfl

theorem replaceFrom_skip (pattern value done rest : List Char) :
    replaceFrom pattern value done.length (done ++ rest) = replaceFrom pattern value 0 rest := by
  induction done with
  | nil => rfl
  | cons c done ih => simpa [replaceFrom] using ih

/-- An occurrence at the front becomes the value. -/
theorem replaceFrom_append (c : Char) (pattern value rest : List Char) :
    replaceFrom (c :: pattern) value 0 (c :: pattern ++ rest)
      = value ++ replaceFrom (c :: pattern) value 0 rest := by
  have occurs : (c :: pattern).isPrefixOf (c :: (pattern ++ rest)) = true := by
    simp [ List.isPrefixOf_iff_prefix]
  rw [List.cons_append, replaceFrom, if_pos occurs]
  simp [replaceFrom_skip]

end ReleaseStamp.Text
