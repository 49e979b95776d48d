import ReleaseStamp.Proofs.Placeholder.Leftover
import ReleaseStamp.Proofs.Text.Pattern

/-!
# The pattern of placeholders

A placeholder is what a pattern takes: two percent signs, name characters, and two percent signs.
The scan of a text for what is left over finds the matches of the pattern.
-/
namespace ReleaseStamp.Placeholder

open Text (Pattern Match)

/-- As a regular expression, this is `%%[A-Za-z0-9_-]+%%`. -/
def pattern : Pattern := .text ['%', '%'] ++ (.oneOrMore isNameChar ++ .text ['%', '%'])

theorem hasLanguage_pattern :
    pattern.HasLanguage fun text => ∃ name, IsName name ∧ text = mark name := by
  have hpercents := Text.hasLanguage_text ['%', '%']
  refine (hpercents.append ((Text.hasLanguage_oneOrMore isNameChar).append hpercents)).congr
    fun text => ?_
  constructor
  · rintro ⟨_, _, rfl, ⟨name, _, hname, rfl, rfl⟩, rfl⟩
    exact ⟨name, hname, by simp [mark]⟩
  · rintro ⟨name, hname, rfl⟩
    exact ⟨_, _, rfl, ⟨name, _, hname, rfl, rfl⟩, by simp [mark]⟩

theorem find?_pattern (text : List Char) :
    pattern.find? text = (split? text).map fun found => ⟨mark found.1, [], found.2⟩ := by
  apply Text.find?_eq_map
  rintro ⟨taken, groups, rest⟩
  rw [Text.mem_ways, hasLanguage_pattern]
  constructor
  · rintro ⟨⟨⟨name, hname, rfl⟩, rfl⟩, rfl⟩
    exact ⟨(name, rest), split?_mark hname rest, rfl⟩
  · rintro ⟨⟨name, after⟩, hsplit, heq⟩
    cases heq
    obtain ⟨hname, htext⟩ := split?_iff.mp hsplit
    exact ⟨⟨⟨name, hname, rfl⟩, rfl⟩, htext⟩

theorem occurrences_eq_findAll (text : List Char) :
    occurrences text = (pattern.findAll text).map Match.taken := by
  induction text using scan_induction with
  | nil => rw [occurrences, Pattern.findAll, Text.scan_nil]; rfl
  | placeholder text name after hsplit ih =>
    have hfind := find?_pattern text
    rw [hsplit, Option.map_some] at hfind
    rw [occurrences_split hsplit, Pattern.findAll, Text.scan_found hfind (by simp [mark]), ih]
    rfl
  | char c rest hsplit ih =>
    have hfind := find?_pattern (c :: rest)
    rw [hsplit, Option.map_none] at hfind
    rw [occurrences_cons hsplit, Pattern.findAll, Text.scan_cons hfind, ih]
    rfl

/-- What is left over are the matches of the pattern, sorted, each once. -/
theorem leftovers_eq_findAll (text : String) : leftovers text = dropRepeats
    (((pattern.findAll text.toList).map fun found => String.ofList found.taken).mergeSort
      (· ≤ ·)) := by
  rw [leftovers, occurrences_eq_findAll, List.map_map]
  rfl

end ReleaseStamp.Placeholder
