import ReleaseStamp.Proofs.Manifest.PathLine

/-!
# Table headers

A header is recognised by its brackets alone, and a line that is none does not become one when
versions without a closing bracket are set in it.
-/
namespace ReleaseStamp.Manifest

open Text (isBlank)

/-- A header is an opening bracket behind blanks, a text without closing brackets that is not empty,
and a closing bracket. -/
theorem tableName?_iff {line name : List Char} :
    tableName? line = some name ↔ ∃ lead inside rest, Blanks lead ∧ inside ≠ [] ∧ ']' ∉ inside ∧
      line = lead ++ '[' :: (inside ++ ']' :: rest) ∧ name = bracketName inside := by
  constructor
  · intro h
    unfold tableName? at h
    split at h
    · rename_i rest hdrop
      simp only at h
      split at h
      · cases h
      · rename_i hcond
        simp only [Bool.or_eq_true, List.isEmpty_iff, not_or] at hcond
        cases h
        have whole := List.takeWhile_append_dropWhile (p := isBlank) (l := line)
        rw [hdrop] at whole
        obtain ⟨bracket, after, hafter⟩ := List.exists_cons_of_ne_nil hcond.2
        have hbracket : bracket = ']' := by
          have hhead := List.head?_dropWhile_not (· != ']') rest
          rw [hafter] at hhead
          simpa using hhead
        have inner := List.takeWhile_append_dropWhile (p := (· != ']')) (l := rest)
        rw [hafter, hbracket] at inner
        refine ⟨_, rest.takeWhile (· != ']'), after, blanks_takeWhile line, hcond.1, ?_, ?_, rfl⟩
        · intro hm
          simpa using List.mem_takeWhile_imp hm
        · rw [inner, whole]
    · cases h
  · rintro ⟨lead, inside, rest, hlead, hne, hclosed, rfl, rfl⟩
    have hstop : ∀ c ∈ ('[' :: (inside ++ ']' :: rest)).head?, isBlank c = false := by
      intro c hc
      cases hc
      decide
    have hinside : ∀ c ∈ inside, (c != ']') = true := by
      intro c hc
      have hc' : c ≠ ']' := fun eq => hclosed (eq ▸ hc)
      simpa using hc'
    simp only [tableName?, hlead.dropWhile_append hstop, List.takeWhile_append_of_pos hinside,
      List.dropWhile_append_of_pos hinside]
    simp [hne]

/-- No header is made inside a line. -/
theorem tableName?_setInlineVersions {version line : List Char} (hversion : ']' ∉ version)
    (h : tableName? line = none) : tableName? (setInlineVersions version line) = none := by
  by_contra hne
  obtain ⟨name, hname⟩ := Option.ne_none_iff_exists'.mp hne
  obtain ⟨lead, inside, rest, hlead, hinside, hclosed, whole, _⟩ := tableName?_iff.mp hname
  have hopening : NoMarks (lead ++ ['[']) := by
    simp [hlead.noMarks, show opensKey '[' = false from rfl]
  have hprefix : lead ++ ['['] <+: setInlineVersions version line :=
    ⟨inside ++ ']' :: rest, by simp [whole]⟩
  obtain ⟨tail, rfl⟩ := (prefix_setInlineVersions version hopening line).mp hprefix
  rw [setInlineVersions_append version hopening] at whole
  have htail : setInlineVersions version tail = inside ++ ']' :: rest := by
    simpa using whole
  -- The first closing bracket of the line stood behind something already.
  have hbracket : ']' ∈ tail := by
    have hm : ']' ∈ setInlineVersions version tail := by simp [htail]
    exact ((setInlineVersions_edited version tail).mem hm).resolve_right hversion
  obtain ⟨before, after, htail', hbefore⟩ := List.eq_append_cons_of_mem hbracket
  have hbefore' : before ≠ [] := by
    rintro rfl
    have hstart : [']'] <+: setInlineVersions version tail := by
      refine (prefix_setInlineVersions version ?_ tail).mpr ⟨after, by simp [htail']⟩
      simp [show opensKey ']' = false from rfl]
    obtain ⟨c, inside', rfl⟩ := List.exists_cons_of_ne_nil hinside
    rw [htail, List.cons_append, List.cons_prefix_cons] at hstart
    exact hclosed (hstart.1 ▸ List.mem_cons_self)
  have hheader : tableName? (lead ++ ['['] ++ tail) = some (bracketName before) :=
    tableName?_iff.mpr ⟨lead, before, after, hlead, hbefore', hbefore, by simp [htail'], rfl⟩
  rw [h] at hheader
  cases hheader

/-- A line that begins with a key is no header. -/
theorem tableName?_keyPart {before : List Char} (h : KeyPart versionKey before)
    (rest : List Char) : tableName? (before ++ rest) = none := by
  obtain ⟨gap, pad, _, _, rfl⟩ := h
  rfl

end ReleaseStamp.Manifest
