import ReleaseStamp.Manifest.Bump
import ReleaseStamp.Proofs.Manifest.Field

/-!
# Inline versions of a line

How the substitution of inline versions acts on a line. A key of an inline table can only start at
a brace or a comma. What stands before the next of these is therefore left as it is, and what a
reader looks for behind one of them stands before the next, so that it cannot reach into a place
where a version has been exchanged.
-/
namespace ReleaseStamp.Manifest

open Text (isBlank)

/-- No key of an inline table starts behind a character of the text. -/
def NoMarks (text : List Char) : Prop := ∀ c ∈ text, opensKey c = false

instance (text : List Char) : Decidable (NoMarks text) :=
  inferInstanceAs (Decidable (∀ c ∈ text, opensKey c = false))

@[simp] theorem noMarks_nil : NoMarks [] := by
  intro c hc
  cases hc

@[simp] theorem noMarks_cons {c : Char} {text : List Char} :
    NoMarks (c :: text) ↔ opensKey c = false ∧ NoMarks text := by
  simp [NoMarks]

@[simp] theorem noMarks_append {a b : List Char} :
    NoMarks (a ++ b) ↔ NoMarks a ∧ NoMarks b := by
  simp only [NoMarks, List.mem_append]
  constructor
  · intro h
    exact ⟨fun c hc => h c (Or.inl hc), fun c hc => h c (Or.inr hc)⟩
  · rintro ⟨ha, hb⟩ c (hc | hc)
    · exact ha c hc
    · exact hb c hc

theorem opensKey_iff {c : Char} : opensKey c = true ↔ c = '\x7b' ∨ c = ',' := by
  simp [opensKey]

theorem Inert.noMarks {text : List Char} (h : Inert text) : NoMarks text := by
  intro c hc
  have hbrace : c ≠ '\x7b' := fun eq => h.brace (eq ▸ hc)
  have hcomma : c ≠ ',' := fun eq => h.comma (eq ▸ hc)
  simp [opensKey, hbrace, hcomma]

theorem Blanks.noMarks {text : List Char} (h : Blanks text) : NoMarks text := by
  intro c hc
  have hblank := h c hc
  simp only [isBlank, Bool.or_eq_true, beq_iff_eq] at hblank
  rcases hblank with rfl | rfl <;> decide

theorem KeyPart.noMarks {key text : List Char} (h : KeyPart key text) (hkey : NoMarks key) :
    NoMarks text := by
  obtain ⟨gap, pad, hgap, hpad, rfl⟩ := h
  simp only [noMarks_append, noMarks_cons]
  exact ⟨⟨hkey, hgap.noMarks⟩, by decide, hpad.noMarks⟩

theorem noMarks_versionKey : NoMarks versionKey := by decide

theorem noMarks_pathKey : NoMarks pathKey := by decide

theorem inlineVersion?_of_not_opens {c : Char} (h : opensKey c = false) (rest : List Char) :
    inlineVersion? (c :: rest) = none := by
  simp [inlineVersion?, h]

theorem setInlineVersions_nil (version : List Char) : setInlineVersions version [] = [] := by
  rw [setInlineVersions]

theorem setInlineVersions_field (version : List Char) {line : List Char} {field : Field}
    (h : inlineVersion? line = some field) :
    setInlineVersions version line =
      field.before ++ '"' :: (version ++ '"' :: setInlineVersions version field.after) := by
  cases line with
  | nil => cases h
  | cons c rest =>
    rw [setInlineVersions]
    split
    · rename_i found hfound
      cases hfound.symm.trans h
      simp
    · rename_i hnone
      cases hnone.symm.trans h

theorem setInlineVersions_cons (version : List Char) {c : Char} {rest : List Char}
    (h : inlineVersion? (c :: rest) = none) :
    setInlineVersions version (c :: rest) = c :: setInlineVersions version rest := by
  rw [setInlineVersions]
  split
  · rename_i hfound
    cases hfound.symm.trans h
  · rfl

/-- A line is read field by field, and character by character in between. -/
theorem inline_induction {motive : List Char → Prop} (nil : motive [])
    (field : ∀ line found, inlineVersion? line = some found → motive found.after → motive line)
    (cons : ∀ c rest, inlineVersion? (c :: rest) = none → motive rest → motive (c :: rest))
    (line : List Char) : motive line := by
  induction h : line.length using Nat.strong_induction_on generalizing line with
  | h n ih =>
    subst h
    cases line with
    | nil => exact nil
    | cons c rest =>
      cases hread : inlineVersion? (c :: rest) with
      | none => exact cons c rest hread (ih rest.length (by simp) rest rfl)
      | some found =>
        exact field _ found hread (ih _ (inlineVersion?_length hread) found.after rfl)

theorem setInlineVersions_append (version : List Char) {lead : List Char} (h : NoMarks lead)
    (rest : List Char) :
    setInlineVersions version (lead ++ rest) = lead ++ setInlineVersions version rest := by
  induction lead with
  | nil => rfl
  | cons c lead ih =>
    rw [noMarks_cons] at h
    rw [List.cons_append, setInlineVersions_cons version (inlineVersion?_of_not_opens h.1 _),
      ih h.2, List.cons_append]

theorem setInlineVersions_of_noMarks (version : List Char) {text : List Char} (h : NoMarks text) :
    setInlineVersions version text = text := by
  have hall := setInlineVersions_append version h []
  rwa [setInlineVersions_nil, List.append_nil] at hall

/-- A version stands between two quotes. -/
theorem setInlineVersions_of_count (version : List Char) {line : List Char}
    (h : line.count '"' < 2) : setInlineVersions version line = line := by
  induction line using inline_induction with
  | nil => exact setInlineVersions_nil version
  | field line found hread _ =>
    have whole := (inlineVersion?_iff.mp hread).2.2
    rw [whole, Field.fill_eq] at h
    simp only [List.count_append, List.count_cons_self] at h
    omega
  | cons c rest hread ih =>
    rw [setInlineVersions_cons version hread, ih]
    exact Nat.lt_of_le_of_lt List.count_le_count_cons h

/-- A field begins with a brace or a comma, and holds no other. -/
theorem InlineKeyPart.split {key text : List Char} (h : InlineKeyPart key text)
    (hkey : NoMarks key) : ∃ mark tail, opensKey mark = true ∧ NoMarks tail ∧
      text = mark :: tail := by
  obtain ⟨mark, lead, part, hmark, hlead, hpart, rfl⟩ := h
  exact ⟨mark, lead ++ part, hmark, noMarks_append.mpr ⟨hlead.noMarks, hpart.noMarks hkey⟩, rfl⟩

/-- Up to the first brace or comma, substitution shows and hides nothing. -/
theorem prefix_setInlineVersions (version : List Char) {lead : List Char} (h : NoMarks lead)
    (line : List Char) : lead <+: setInlineVersions version line ↔ lead <+: line := by
  induction line using inline_induction generalizing lead with
  | nil => rw [setInlineVersions_nil]
  | field line found hread _ =>
    obtain ⟨hpart, _, whole⟩ := inlineVersion?_iff.mp hread
    obtain ⟨mark, tail, hmark, _, hbefore⟩ := hpart.split noMarks_versionKey
    rw [setInlineVersions_field version hread, whole, Field.fill_eq, hbefore]
    cases lead with
    | nil => simp
    | cons c lead =>
      have hc : c ≠ mark := by
        rintro rfl
        rw [noMarks_cons, hmark] at h
        cases h.1
      simp [List.cons_prefix_cons, hc]
  | cons c rest hread ih =>
    rw [setInlineVersions_cons version hread]
    cases lead with
    | nil => simp
    | cons d lead =>
      rw [List.cons_prefix_cons, List.cons_prefix_cons, ih (noMarks_cons.mp h).2]

/-- Reading at a mark looks no further than to the closing quote. -/
theorem inlineVersion?_isSome_iff {c : Char} {rest : List Char} :
    (inlineVersion? (c :: rest)).isSome = true ↔ opensKey c = true ∧ ∃ lead part old,
      Blanks lead ∧ KeyPart versionKey part ∧ IsVersion old ∧
      lead ++ part ++ '"' :: (old ++ ['"']) <+: rest := by
  constructor
  · intro h
    obtain ⟨found, hread⟩ := Option.isSome_iff_exists.mp h
    obtain ⟨⟨mark, lead, part, hmark, hlead, hpart, hbefore⟩, hold, whole⟩ :=
      inlineVersion?_iff.mp hread
    rw [Field.fill_eq, hbefore, List.cons_append, List.cons.injEq] at whole
    obtain ⟨rfl, rfl⟩ := whole
    exact ⟨hmark, lead, part, found.version, hlead, hpart, hold, found.after, by simp⟩
  · rintro ⟨hmark, lead, part, old, hlead, hpart, hold, after, rfl⟩
    apply Option.isSome_iff_exists.mpr
    refine ⟨⟨c :: (lead ++ part), old, after⟩, inlineVersion?_iff.mpr
      ⟨⟨c, lead, part, hmark, hlead, hpart, rfl⟩, hold, by simp⟩⟩

/-- Where no version was read, none is read after the rest of the line has been substituted. -/
theorem inlineVersion?_cons_setInlineVersions (version : List Char) {c : Char} {rest : List Char}
    (h : inlineVersion? (c :: rest) = none) :
    inlineVersion? (c :: setInlineVersions version rest) = none := by
  rw [← Option.not_isSome_iff_eq_none] at h ⊢
  intro hsome
  apply h
  obtain ⟨hmark, lead, part, old, hlead, hpart, hold, hprefix⟩ := inlineVersion?_isSome_iff.mp hsome
  refine inlineVersion?_isSome_iff.mpr ⟨hmark, lead, part, old, hlead, hpart, hold, ?_⟩
  have hquote : opensKey '"' = false := by decide
  refine (prefix_setInlineVersions version ?_ rest).mp hprefix
  simp [hlead.noMarks, hpart.noMarks noMarks_versionKey, hold.inert.noMarks, hquote]

/-- Setting versions in a line whose versions have been set already. The version of the first pass
is recognised by the second one, or is the version that the second one sets. -/
theorem setInlineVersions_setInlineVersions {first second : List Char} (hquote : '"' ∉ first)
    (hmarks : NoMarks first) (h : IsVersion first ∨ first = second) (line : List Char) :
    setInlineVersions second (setInlineVersions first line) = setInlineVersions second line := by
  induction line using inline_induction with
  | nil => simp [setInlineVersions_nil]
  | field line found hread ih =>
    obtain ⟨hpart, _, _⟩ := inlineVersion?_iff.mp hread
    rw [setInlineVersions_field first hread, setInlineVersions_field second hread]
    by_cases hfirst : IsVersion first
    · have hagain : inlineVersion? (found.before ++ '"' :: (first ++ '"' ::
          setInlineVersions first found.after)) =
          some ⟨found.before, first, setInlineVersions first found.after⟩ :=
        inlineVersion?_iff.mpr ⟨hpart, hfirst, by simp⟩
      rw [setInlineVersions_field second hagain, ih]
    · -- The version of the first pass is not recognised, and stays what it is.
      obtain rfl := h.resolve_left hfirst
      have hskip : inlineVersion? (found.before ++ '"' :: (first ++ '"' ::
          setInlineVersions first found.after)) = none :=
        inlineVersion?_eq_none hpart hquote hfirst
      obtain ⟨mark, tail, hmark, htail, hbefore⟩ := hpart.split noMarks_versionKey
      have hlead : NoMarks (tail ++ '"' :: (first ++ ['"'])) := by
        have hq : opensKey '"' = false := by decide
        simp [htail, hmarks, hq]
      rw [hbefore, List.cons_append] at hskip ⊢
      rw [setInlineVersions_cons first hskip]
      have hwalk := setInlineVersions_append first hlead (setInlineVersions first found.after)
      simp only [List.append_assoc, List.cons_append, List.nil_append] at hwalk
      rw [hwalk, ih]
  | cons c rest hread ih =>
    rw [setInlineVersions_cons first hread, setInlineVersions_cons second hread,
      setInlineVersions_cons second (inlineVersion?_cons_setInlineVersions first hread), ih]

end ReleaseStamp.Manifest
