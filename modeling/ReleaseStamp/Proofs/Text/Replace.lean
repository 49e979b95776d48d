import Mathlib.Data.List.Infix
import ReleaseStamp.Text.Replace

/-!
# The parts between replaced texts

Replacing a pattern keeps what stands between its occurrences, which are found from the left.
-/
namespace ReleaseStamp.Text

/-- The parts of a text before each occurrence of a pattern, and the part after the last one.
Nowhere in a part, or across its end, does the pattern start before the occurrence that follows. -/
structure IsParted (pattern text : List Char) (parts : List (List Char)) (last : List Char) :
    Prop where
  text_eq : text = parts.flatMap (· ++ pattern) ++ last
  parts_free : ∀ part ∈ parts, ¬ pattern <:+: part ++ pattern.dropLast
  last_free : ¬ pattern <:+: last

variable {pattern text last : List Char} {parts : List (List Char)} {c : Char}

theorem replaceFrom_keep (value : List Char) (h : ¬ pattern <+: c :: text) :
    replaceFrom pattern value 0 (c :: text) = c :: replaceFrom pattern value 0 text := by
  rw [replaceFrom, if_neg]
  rwa [List.isPrefixOf_iff_prefix]

theorem not_infix_cons (hfirst : ¬ pattern <+: c :: text) (hrest : ¬ pattern <:+: text) :
    ¬ pattern <:+: c :: text := by
  rw [List.infix_cons_iff]
  rintro (hstart | hinfix)
  · exact hfirst hstart
  · exact hrest hinfix

/-- An occurrence in front ends an empty part. -/
theorem IsParted.occurrence (h : IsParted pattern text parts last) (hpattern : pattern ≠ []) :
    IsParted pattern (pattern ++ text) ([] :: parts) last := by
  obtain ⟨htext, hparts, hlast⟩ := h
  refine ⟨by simp [htext], List.forall_mem_cons.mpr ⟨?_, hparts⟩, hlast⟩
  intro hinfix
  have hle := hinfix.length_le
  have hpos := List.length_pos_iff.mpr hpattern
  rw [List.nil_append, List.length_dropLast] at hle
  omega

/-- A character in front where no occurrence starts belongs to the first part. -/
theorem IsParted.char (h : IsParted pattern text parts last) (hfirst : ¬ pattern <+: c :: text) :
    ∃ parts' last', IsParted pattern (c :: text) parts' last' ∧ ∀ value : List Char,
      parts'.flatMap (· ++ value) ++ last' = c :: (parts.flatMap (· ++ value) ++ last) := by
  obtain ⟨htext, hparts, hlast⟩ := h
  cases parts with
  | nil =>
    obtain rfl : text = last := htext
    exact ⟨[], c :: text, ⟨rfl, List.forall_mem_nil _, not_infix_cons hfirst hlast⟩, fun _ => rfl⟩
  | cons part parts =>
    obtain ⟨hpart, hparts⟩ := List.forall_mem_cons.mp hparts
    refine ⟨(c :: part) :: parts, last,
      ⟨by simp [htext], List.forall_mem_cons.mpr ⟨?_, hparts⟩, hlast⟩, fun value => by simp⟩
    -- what would start at the character would be an occurrence in the text
    refine not_infix_cons (fun hstart => hfirst (hstart.trans ?_)) hpart
    have hcut : part ++ pattern.dropLast <+: part ++ pattern :=
      (List.prefix_append_right_inj part).mpr (List.dropLast_prefix pattern)
    have hpart' : part ++ pattern <+: text := by
      rw [htext, List.flatMap_cons, List.append_assoc]
      exact List.prefix_append _ _
    exact (List.prefix_cons_inj c).mpr (hcut.trans hpart')

theorem exists_parts (hpattern : pattern ≠ []) (text : List Char) :
    ∃ parts last, IsParted pattern text parts last ∧ ∀ value,
      replaceAll pattern value text = parts.flatMap (· ++ value) ++ last := by
  obtain ⟨first, pattern, rfl⟩ := List.exists_cons_of_ne_nil hpattern
  change ∃ parts last, _ ∧ ∀ value, replaceFrom (first :: pattern) value 0 text = _
  -- by the length of the text, as an occurrence is passed as a whole
  induction hlength : text.length using Nat.strong_induction_on generalizing text with
  | _ n ih =>
    by_cases hstart : first :: pattern <+: text
    · obtain ⟨rest, rfl⟩ := hstart
      rw [List.length_append, List.length_cons] at hlength
      obtain ⟨parts, last, hparted, hreplace⟩ := ih rest.length (by omega) rest rfl
      refine ⟨[] :: parts, last, hparted.occurrence hpattern, ?_⟩
      intro value
      rw [replaceFrom_append, hreplace, List.flatMap_cons, List.nil_append, List.append_assoc]
    · cases text with
      | nil => exact ⟨[], [], ⟨rfl, List.forall_mem_nil _, by simp⟩, fun value => by simp⟩
      | cons c text =>
        rw [List.length_cons] at hlength
        obtain ⟨parts, last, hparted, hreplace⟩ := ih text.length (by omega) text rfl
        obtain ⟨parts', last', hparted', hvalue⟩ := hparted.char hstart
        refine ⟨parts', last', hparted', ?_⟩
        intro value
        rw [replaceFrom_keep value hstart, hreplace, hvalue]

end ReleaseStamp.Text
