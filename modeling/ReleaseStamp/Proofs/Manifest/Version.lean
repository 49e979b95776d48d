import Mathlib.Data.List.TakeWhile
import ReleaseStamp.Manifest.Version

/-!
# The shape of version numbers

The reader of version numbers against their grammar. What later proofs need of a version number is
that none of its characters has a meaning in a manifest.
-/
namespace ReleaseStamp.Manifest

/-- The characters of a text are tried one by one, and not all that there are. -/
instance (priority := high) decidableChars (p : Char → Prop) [DecidablePred p]
    (text : List Char) : Decidable (∀ c ∈ text, p c) := List.decidableBAll p text

instance (priority := high) decidableHead (p : Char → Prop) [DecidablePred p] :
    (head : Option Char) → Decidable (∀ c ∈ head, p c)
  | none => isTrue fun _ h => nomatch h
  | some c => decidable_of_iff (p c) (by simp)

/-- A nonempty run of decimal digits of any script. -/
def IsNumber (text : List Char) : Prop := text ≠ [] ∧ ∀ c ∈ text, Text.isDigit c = true

def IsVersionSuffix (text : List Char) : Prop :=
  text = [] ∨ ∃ sign rest, (sign = '-' ∨ sign = '+') ∧ (∀ c ∈ rest, isSuffixChar c = true) ∧
    text = sign :: rest

def IsVersion (text : List Char) : Prop :=
  ∃ major minor patch suffix, IsNumber major ∧ IsNumber minor ∧ IsNumber patch ∧
    IsVersionSuffix suffix ∧ text = major ++ '.' :: (minor ++ '.' :: (patch ++ suffix))

theorem dropNumber_append {number : List Char} (h : IsNumber number) {rest : List Char}
    (stop : ∀ c ∈ rest.head?, Text.isDigit c = false) :
    dropNumber (number ++ rest) = some rest := by
  have hdrop : rest.dropWhile Text.isDigit = rest := by
    cases rest with
    | nil => rfl
    | cons c rest => exact List.dropWhile_cons_of_neg (by simp [stop c rfl])
  rw [dropNumber, List.takeWhile_append_of_pos h.2, List.dropWhile_append_of_pos h.2, hdrop]
  simp [h.1]

theorem dropNumber_split {text rest : List Char} (h : dropNumber text = some rest) :
    ∃ number, IsNumber number ∧ text = number ++ rest := by
  unfold dropNumber at h
  split at h
  · cases h
  · rename_i nonempty
    cases h
    refine ⟨text.takeWhile Text.isDigit, ⟨by simpa using nonempty, ?_⟩, by simp⟩
    intro c hc
    exact List.mem_takeWhile_imp hc

theorem dropPoint_eq_some {text rest : List Char} :
    dropPoint text = some rest ↔ text = '.' :: rest := by
  constructor
  · intro h
    unfold dropPoint at h
    split at h <;> cases h
    rfl
  · rintro rfl
    rfl

theorem dropNumbers_split {text rest : List Char} (h : dropNumbers text = some rest) :
    ∃ major minor patch, IsNumber major ∧ IsNumber minor ∧ IsNumber patch ∧
      text = major ++ '.' :: (minor ++ '.' :: (patch ++ rest)) := by
  simp only [dropNumbers, Option.bind_eq_bind, Option.bind_eq_some_iff] at h
  obtain ⟨afterMajor, h1, beforeMinor, h2, afterMinor, h3, beforePatch, h4, h5⟩ := h
  obtain ⟨major, hmajor, rfl⟩ := dropNumber_split h1
  obtain rfl := dropPoint_eq_some.mp h2
  obtain ⟨minor, hminor, rfl⟩ := dropNumber_split h3
  obtain rfl := dropPoint_eq_some.mp h4
  obtain ⟨patch, hpatch, rfl⟩ := dropNumber_split h5
  exact ⟨major, minor, patch, hmajor, hminor, hpatch, rfl⟩

theorem isSuffix_iff {text : List Char} : isSuffix text = true ↔ IsVersionSuffix text := by
  cases text with
  | nil => simp [isSuffix, IsVersionSuffix]
  | cons sign rest =>
    simp only [isSuffix, IsVersionSuffix, Bool.and_eq_true, Bool.or_eq_true, beq_iff_eq,
      List.all_eq_true, reduceCtorEq, false_or, List.cons.injEq]
    constructor
    · rintro ⟨hsign, hrest⟩
      exact ⟨sign, rest, hsign, hrest, rfl, rfl⟩
    · rintro ⟨_, _, hsign, hrest, rfl, rfl⟩
      exact ⟨hsign, hrest⟩

/-- No suffix starts with a digit, so the third number ends where the suffix begins. -/
theorem IsVersionSuffix.head_not_digit {text : List Char} (h : IsVersionSuffix text) :
    ∀ c ∈ text.head?, Text.isDigit c = false := by
  rcases h with rfl | ⟨sign, rest, hsign, _, rfl⟩
  · simp
  · intro c hc
    cases hc
    rcases hsign with rfl | rfl <;> decide

/-- The reader accepts exactly the grammar. -/
theorem isVersion_iff {text : List Char} : isVersion text = true ↔ IsVersion text := by
  constructor
  · intro h
    unfold isVersion at h
    split at h
    · rename_i rest hrest
      obtain ⟨major, minor, patch, hmajor, hminor, hpatch, eq⟩ := dropNumbers_split hrest
      exact ⟨major, minor, patch, rest, hmajor, hminor, hpatch, isSuffix_iff.mp h, eq⟩
    · cases h
  · rintro ⟨major, minor, patch, suffix, hmajor, hminor, hpatch, hsuffix, rfl⟩
    have hpoint : ∀ rest : List Char, ∀ c ∈ ('.' :: rest).head?, Text.isDigit c = false := by
      intro rest c hc
      cases hc
      decide
    simp only [isVersion, dropNumbers, Option.bind_eq_bind, dropNumber_append hmajor (hpoint _),
      dropNumber_append hminor (hpoint _), dropNumber_append hpatch hsuffix.head_not_digit,
      dropPoint, Option.bind_some]
    exact isSuffix_iff.mpr hsuffix

instance (text : List Char) : Decidable (IsVersion text) :=
  decidable_of_iff _ isVersion_iff

/-- Every character of a version number is a digit, a point or a suffix character. -/
theorem IsVersion.mem {text : List Char} (h : IsVersion text) {c : Char} (hc : c ∈ text) :
    Text.isDigit c = true ∨ isSuffixChar c = true := by
  obtain ⟨major, minor, patch, suffix, hmajor, hminor, hpatch, hsuffix, rfl⟩ := h
  have point : isSuffixChar '.' = true := by decide
  simp only [List.mem_append, List.mem_cons] at hc
  rcases hc with hc | rfl | hc | rfl | hc | hc
  · exact Or.inl (hmajor.2 c hc)
  · exact Or.inr point
  · exact Or.inl (hminor.2 c hc)
  · exact Or.inr point
  · exact Or.inl (hpatch.2 c hc)
  · rcases hsuffix with rfl | ⟨sign, rest, hsign, hrest, rfl⟩
    · cases hc
    · rcases List.mem_cons.mp hc with rfl | hc
      · rcases hsign with rfl | rfl <;> exact Or.inr (by decide)
      · exact Or.inr (hrest c hc)

/-- Text between quotes that holds none of these characters is never taken for part of a manifest's
structure: it ends no string, opens no key, closes no header and ends no line. -/
structure Inert (text : List Char) : Prop where
  quote : '"' ∉ text
  brace : '\x7b' ∉ text
  comma : ',' ∉ text
  bracket : ']' ∉ text
  newline : '\n' ∉ text

theorem IsVersion.inert {text : List Char} (h : IsVersion text) : Inert text := by
  have absent : ∀ c : Char, Text.isDigit c = false → isSuffixChar c = false → c ∉ text := by
    intro c hdigit hsuffix hc
    rcases h.mem hc with hc | hc
    · rw [hdigit] at hc
      cases hc
    · rw [hsuffix] at hc
      cases hc
  constructor <;> exact absent _ (by decide) (by decide)

end ReleaseStamp.Manifest
