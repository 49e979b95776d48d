import ReleaseStamp.Proofs.Manifest.Inline

/-!
# Texts with exchanged versions

Setting versions is an edit of a text: some versions, each in double quotes behind a `version` key
and its equals sign, are exchanged for the new one, and all else is kept.
-/
namespace ReleaseStamp.Manifest

open Text (isBlank)

/-- The second text is the first one with some versions exchanged. -/
inductive Edited (version : List Char) : List Char → List Char → Prop where
  | nil : Edited version [] []
  | keep {before after} (c : Char) : Edited version before after →
      Edited version (c :: before) (c :: after)
  | exchange {before after key old} : KeyPart versionKey key → IsVersion old →
      Edited version before after →
      Edited version (key ++ '"' :: (old ++ '"' :: before)) 
        (key ++ '"' :: (version ++ '"' :: after))

variable {version before after : List Char}

theorem Edited.prepend (lead : List Char) (h : Edited version before after) :
    Edited version (lead ++ before) (lead ++ after) := by
  induction lead with
  | nil => exact h
  | cons c lead ih => exact ih.keep c

theorem Edited.refl (version text : List Char) : Edited version text text := by
  have hend : Edited version [] [] := .nil
  simpa using hend.prepend text

/-- Nothing comes into a text but the version. -/
theorem Edited.mem (h : Edited version before after) {c : Char} (hc : c ∈ after) :
    c ∈ before ∨ c ∈ version := by
  induction h with
  | nil => cases hc
  | keep d _ ih =>
    rcases List.mem_cons.mp hc with rfl | hc
    · exact Or.inl List.mem_cons_self
    · exact (ih hc).imp_left (List.mem_cons_of_mem d)
  | exchange _ _ _ ih =>
    simp only [List.mem_append, List.mem_cons] at hc ⊢
    rcases hc with hc | hc | hc | hc | hc
    · exact Or.inl (Or.inl hc)
    · exact Or.inl (Or.inr (Or.inl hc))
    · exact Or.inr hc
    · exact Or.inl (Or.inr (Or.inl hc))
    · exact (ih hc).imp_left fun hm => Or.inr (Or.inr (Or.inr (Or.inr hm)))

/-- Only characters of versions can go. -/
theorem Edited.mem_of_mem (h : Edited version before after) {c : Char}
    (hkeep : ∀ old, IsVersion old → c ∉ old) (hc : c ∈ before) : c ∈ after := by
  induction h with
  | nil => cases hc
  | keep d _ ih =>
    rcases List.mem_cons.mp hc with rfl | hc
    · exact List.mem_cons_self
    · exact List.mem_cons_of_mem d (ih hc)
  | exchange _ hold _ ih =>
    simp only [List.mem_append, List.mem_cons] at hc ⊢
    rcases hc with hc | hc | hc | hc | hc
    · exact Or.inl hc
    · exact Or.inr (Or.inl hc)
    · exact absurd hc (hkeep _ hold)
    · exact Or.inr (Or.inl hc)
    · exact Or.inr (Or.inr (Or.inr (Or.inr (ih hc))))

theorem Edited.getLast? (h : Edited version before after) : after.getLast? = before.getLast? := by
  induction h with
  | nil => rfl
  | keep c _ ih => rw [List.getLast?_cons, List.getLast?_cons, ih]
  | exchange _ _ _ ih => simp [List.getLast?_append, List.getLast?_cons, ih]

/-- Line feeds are neither brought nor taken. -/
theorem Edited.count_newline (h : Edited version before after) (hversion : '\n' ∉ version) :
    after.count '\n' = before.count '\n' := by
  induction h with
  | nil => rfl
  | keep c _ ih => rw [List.count_cons, List.count_cons, ih]
  | exchange _ hold _ ih =>
    simp [List.count_eq_zero_of_not_mem hversion, List.count_eq_zero_of_not_mem hold.inert.newline,
      ih]

/-- A line that ends with its only line feed is edited to such a line. -/
theorem Edited.line {body : List Char} (h : Edited version (body ++ ['\n']) after)
    (hversion : '\n' ∉ version) (hbody : '\n' ∉ body) :
    ∃ body', '\n' ∉ body' ∧ after = body' ++ ['\n'] := by
  have hlast : after.getLast? = some '\n' := by
    rw [h.getLast?]
    simp
  have hcount : after.count '\n' = 1 := by
    rw [h.count_newline hversion]
    simp [List.count_eq_zero_of_not_mem hbody]
  obtain ⟨body', rfl⟩ := List.getLast?_eq_some_iff.mp hlast
  refine ⟨body', ?_, rfl⟩
  apply List.count_eq_zero.mp
  simpa using hcount

theorem Edited.newline_not_mem (h : Edited version before after) (hversion : '\n' ∉ version)
    (hbefore : '\n' ∉ before) : '\n' ∉ after := by
  intro hm
  exact (h.mem hm).elim hbefore hversion

theorem Edited.ne_nil (h : Edited version before after) (hne : before ≠ []) : after ≠ [] := by
  rintro rfl
  have hlast := h.getLast?
  rw [List.getLast?_nil] at hlast
  exact hne (List.getLast?_eq_none_iff.mp hlast.symm)

theorem setInlineVersions_edited (version line : List Char) :
    Edited version line (setInlineVersions version line) := by
  induction line using inline_induction with
  | nil =>
    rw [setInlineVersions_nil]
    exact .nil
  | field line found hread ih =>
    obtain ⟨⟨mark, lead, part, _, _, hpart, hbefore⟩, hold, whole⟩ := inlineVersion?_iff.mp hread
    rw [setInlineVersions_field version hread, whole, Field.fill_eq, hbefore]
    simpa [List.append_assoc] using (Edited.exchange hpart hold ih).prepend (mark :: lead)
  | cons c rest hread ih =>
    rw [setInlineVersions_cons version hread]
    exact ih.keep c

theorem setOwnVersion_field (version : List Char) {line : List Char} {field : Field}
    (h : ownVersion? line = some field) : setOwnVersion version line = field.fill version := by
  simp [setOwnVersion, h]

theorem setOwnVersion_none (version : List Char) {line : List Char}
    (h : ownVersion? line = none) : setOwnVersion version line = line := by
  simp [setOwnVersion, h]

theorem setOwnVersion_edited (version line : List Char) :
    Edited version line (setOwnVersion version line) := by
  cases hread : ownVersion? line with
  | none =>
    rw [setOwnVersion_none version hread]
    exact .refl version line
  | some field =>
    obtain ⟨hpart, hold, _, whole⟩ := ownVersion?_iff.mp hread
    rw [setOwnVersion_field version hread, whole, Field.fill_eq, Field.fill_eq]
    exact .exchange hpart hold (.refl version field.after)

end ReleaseStamp.Manifest
