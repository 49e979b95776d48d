import ReleaseStamp.Proofs.Manifest.Edited

/-!
# Lines with a path key

Substitution neither makes nor hides a `path` key of an inline table, nor a brace, as long as what
is set holds neither a brace nor a comma. Both passes over a line therefore agree on whether it has
inline tables with a path.
-/
namespace ReleaseStamp.Manifest

open Text (isBlank)

/-- A path key is found at a mark when blanks, the key, blanks and an equals sign follow it. -/
theorem hasPathKey_cons {c : Char} {rest : List Char} :
    hasPathKey (c :: rest) = true ↔ (opensKey c = true ∧ ∃ lead gap, Blanks lead ∧ Blanks gap ∧
      lead ++ (pathKey ++ (gap ++ ['='])) <+: rest) ∨ hasPathKey rest = true := by
  rw [hasPathKey, Bool.or_eq_true, Bool.and_eq_true, splitKey?_isSome_iff]
  apply or_congr_left
  apply and_congr_right
  intro _
  constructor
  · rintro ⟨gap, after, hgap, hdrop⟩
    refine ⟨rest.takeWhile isBlank, gap, blanks_takeWhile rest, hgap, after, ?_⟩
    have whole := List.takeWhile_append_dropWhile (p := isBlank) (l := rest)
    rw [hdrop] at whole
    simpa [List.append_assoc] using whole
  · rintro ⟨lead, gap, hlead, hgap, after, rfl⟩
    refine ⟨gap, after, hgap, ?_⟩
    have hstop : ∀ c ∈ (pathKey ++ (gap ++ '=' :: after)).head?, isBlank c = false := by
      intro c hc
      cases hc
      decide
    simpa [List.append_assoc] using hlead.dropWhile_append hstop

theorem hasPathKey_append {lead : List Char} (h : NoMarks lead) (rest : List Char) :
    hasPathKey (lead ++ rest) = hasPathKey rest := by
  induction lead with
  | nil => rfl
  | cons c lead ih =>
    rw [noMarks_cons] at h
    simp [hasPathKey, h.1, ih h.2]

theorem hasPathKey_of_noMarks {text : List Char} (h : NoMarks text) : hasPathKey text = false := by
  have hall := hasPathKey_append h []
  rwa [List.append_nil] at hall

/-- The start of an inline version is no path key. -/
theorem hasPathKey_field {before text : List Char} (hbefore : InlineKeyPart versionKey before)
    (htext : NoMarks text) (rest : List Char) :
    hasPathKey (before ++ '"' :: (text ++ '"' :: rest)) = hasPathKey rest := by
  obtain ⟨mark, lead, part, _, hlead, hpart, rfl⟩ := hbefore
  have hquote : opensKey '"' = false := by decide
  have htail : NoMarks (lead ++ part ++ '"' :: (text ++ ['"'])) := by
    simp [hlead.noMarks, hpart.noMarks noMarks_versionKey, htext, hquote]
  have hstop : ∀ c ∈ (part ++ '"' :: (text ++ '"' :: rest)).head?, isBlank c = false := by
    obtain ⟨gap, pad, _, _, rfl⟩ := hpart
    intro c hc
    cases hc
    decide
  have hkey : splitKey? pathKey (part ++ '"' :: (text ++ '"' :: rest)) = none := by
    obtain ⟨gap, pad, _, _, rfl⟩ := hpart
    rfl
  have hwalk := hasPathKey_append htail rest
  simp only [List.append_assoc, List.cons_append, List.nil_append] at hwalk
  simp [hasPathKey, hlead.dropWhile_append hstop, hkey, hwalk]

theorem hasPathKey_setInlineVersions {version : List Char} (h : NoMarks version)
    (line : List Char) : hasPathKey (setInlineVersions version line) = hasPathKey line := by
  induction line using inline_induction with
  | nil => rw [setInlineVersions_nil]
  | field line found hread ih =>
    obtain ⟨hpart, hold, whole⟩ := inlineVersion?_iff.mp hread
    rw [setInlineVersions_field version hread, hasPathKey_field hpart h, ih, whole, Field.fill_eq,
      hasPathKey_field hpart hold.inert.noMarks]
  | cons c rest hread ih =>
    rw [setInlineVersions_cons version hread, Bool.eq_iff_iff, hasPathKey_cons, hasPathKey_cons, ih]
    apply or_congr_left
    apply and_congr_right
    intro _
    -- The key ends before the next mark, where both lines agree.
    apply exists_congr
    intro lead
    apply exists_congr
    intro gap
    apply and_congr_right
    intro hlead
    apply and_congr_right
    intro hgap
    apply prefix_setInlineVersions
    simp [hlead.noMarks, hgap.noMarks, noMarks_pathKey, show opensKey '=' = false from rfl]

theorem isPathLine_iff {line : List Char} :
    isPathLine line = true ↔ '\x7b' ∈ line ∧ hasPathKey line = true := by
  simp [isPathLine]

/-- A path line is one still after its inline versions have been set. -/
theorem isPathLine_setInlineVersions {version line : List Char} (h : NoMarks version)
    (hline : isPathLine line = true) : isPathLine (setInlineVersions version line) = true := by
  rw [isPathLine_iff] at hline ⊢
  refine ⟨?_, by rw [hasPathKey_setInlineVersions h, hline.2]⟩
  exact (setInlineVersions_edited version line).mem_of_mem (fun _ hold => hold.inert.brace) hline.1

end ReleaseStamp.Manifest
