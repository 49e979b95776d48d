import ReleaseStamp.Proofs.Manifest.Apart
import ReleaseStamp.Proofs.Manifest.Nested.Syntax

/-!
# Quoted texts in a line

What the readers find in a quoted text is in it as a whole. In double quotes no version is found:
the quotes of one would stand behind backslashes. In single quotes and in comments there may be one.
-/
namespace ReleaseStamp.Manifest.Nested

open Text (isBlank isDigit)

variable {version text text' rest a b : List Char} {c d : Char}

theorem looksLikePath_iff : LooksLikePath text ↔ hasPathKey text = true := by
  induction text with
  | nil =>
    constructor
    · rintro ⟨front, mark, lead, gap, rest, _, _, _, h⟩
      simp at h
    · intro h
      cases h
  | cons c text ih =>
    rw [hasPathKey_cons, ← ih]
    constructor
    · rintro ⟨front, mark, lead, gap, rest, hmark, hlead, hgap, h⟩
      cases front with
      | nil =>
        obtain ⟨rfl, rfl⟩ := List.cons.inj h
        exact .inl ⟨hmark, lead, gap, hlead, hgap, rest, by simp⟩
      | cons d front =>
        obtain ⟨rfl, rfl⟩ := List.cons.inj h
        exact .inr ⟨front, mark, lead, gap, rest, hmark, hlead, hgap, rfl⟩
    · rintro (⟨hmark, lead, gap, hlead, hgap, rest, rfl⟩ |
        ⟨front, mark, lead, gap, rest, hmark, hlead, hgap, rfl⟩)
      · exact ⟨[], c, lead, gap, rest, hmark, hlead, hgap, by simp⟩
      · exact ⟨c :: front, mark, lead, gap, rest, hmark, hlead, hgap, rfl⟩

instance (text : List Char) : Decidable (LooksLikePath text) :=
  decidable_of_iff _ looksLikePath_iff.symm

instance (line : Line) : Decidable line.MentionsPath :=
  inferInstanceAs (Decidable (_ ∈ _ ∨ ∃ text ∈ _, LooksLikePath text))

/-- Setting the versions of a text gives the other one, whatever follows that is no digit. -/
def Sets (version text text' : List Char) : Prop :=
  ∀ rest, (∀ c ∈ rest.head?, isDigit c = false) →
    setInlineVersions version (text ++ rest) = text' ++ setInlineVersions version rest

/-- There is a path key in the text exactly if the proposition holds, whatever follows. -/
def Finds (text : List Char) (found : Prop) : Prop :=
  ∀ rest, hasPathKey (text ++ rest) = true ↔ found ∨ hasPathKey rest = true

theorem Sets.prepend (h : NoMarks a) (hb : Sets version b text') :
    Sets version (a ++ b) (a ++ text') := by
  intro rest hrest
  rw [List.append_assoc, setInlineVersions_append version h, hb rest hrest, List.append_assoc]

theorem Sets.of_noMarks (h : NoMarks a) : Sets version a a := by
  intro rest _
  exact setInlineVersions_append version h rest

theorem Sets.append {a' : List Char} (ha : Sets version a a') (hb : Sets version b text')
    (hdigit : ∀ c ∈ b.head?, isDigit c = false) : Sets version (a ++ b) (a' ++ text') := by
  intro rest hrest
  have hhead : ∀ c ∈ (b ++ rest).head?, isDigit c = false := by
    cases b with
    | nil => exact hrest
    | cons d b => exact hdigit
  rw [List.append_assoc, ha _ hhead, hb rest hrest, List.append_assoc]

theorem Finds.of_noMarks (h : NoMarks a) : Finds a False := by
  intro rest
  rw [hasPathKey_append h, false_or]

theorem Finds.append {p q : Prop} (ha : Finds a p) (hb : Finds b q) : Finds (a ++ b) (p ∨ q) := by
  intro rest
  rw [List.append_assoc, ha, hb, or_assoc]

theorem Finds.congr {p q : Prop} (h : Finds a p) (hpq : p ↔ q) : Finds a q := by
  intro rest
  rw [h rest, hpq]

/-- The quote that closes an escaped text is the first one that no backslash stands before. -/
theorem first_quote {body after : List Char} (hbody : isEscaped body = true) (hquote : '"' ∉ a)
    (hslash : '\\' ∉ a) (h : a ++ '"' :: after = body ++ '"' :: rest) :
    a = body ∧ after = rest := by
  fun_induction isEscaped body generalizing a with
  | case1 =>
    cases a with
    | nil => exact ⟨rfl, (List.cons.inj h).2⟩
    | cons c a =>
      obtain ⟨rfl, _⟩ := List.cons.inj h
      exact absurd List.mem_cons_self hquote
  | case2 c body ih =>
    -- the text would have the backslash in it
    cases a with
    | nil => cases (List.cons.inj h).1
    | cons d a =>
      obtain ⟨rfl, _⟩ := List.cons.inj h
      exact absurd List.mem_cons_self hslash
  | case3 => cases hbody
  | case4 c body _ _ ih =>
    rw [Bool.and_eq_true, bne_iff_ne] at hbody
    cases a with
    | nil => exact absurd (List.cons.inj h).1.symm hbody.1
    | cons d a =>
      obtain ⟨rfl, htail⟩ := List.cons.inj h
      obtain ⟨rfl, rfl⟩ := ih hbody.2 (fun hm => hquote (List.mem_cons_of_mem _ hm))
        (fun hm => hslash (List.mem_cons_of_mem _ hm)) htail
      exact ⟨rfl, rfl⟩

theorem isVersion_head {old : List Char} (h : IsVersion old) (rest : List Char) :
    ∃ c ∈ (old ++ rest).head?, isDigit c = true := by
  obtain ⟨major, minor, patch, suffix, ⟨hne, hdigits⟩, _, _, _, rfl⟩ := h
  obtain ⟨c, major, rfl⟩ := List.exists_cons_of_ne_nil hne
  exact ⟨c, rfl, hdigits c List.mem_cons_self⟩

theorem inlineVersion?_escaped {body : List Char} (hbody : isEscaped body = true)
    (hrest : ∀ c ∈ rest.head?, isDigit c = false) (c : Char) :
    inlineVersion? (c :: (body ++ '"' :: rest)) = none := by
  rw [← Option.not_isSome_iff_eq_none]
  intro hsome
  obtain ⟨_, lead, part, old, hlead, hpart, hold, after, htext⟩ :=
    inlineVersion?_isSome_iff.mp hsome
  have hquote : '"' ∉ lead ++ part := by
    simp [hlead.not_mem (c := '"') (by decide), hpart.not_mem (c := '"') (by decide) (by decide)]
  have hslash : '\\' ∉ lead ++ part := by
    simp [hlead.not_mem (c := '\\') (by decide), hpart.not_mem (c := '\\') (by decide) (by decide)]
  have hwhole : (lead ++ part) ++ '"' :: (old ++ ['"'] ++ after) = body ++ '"' :: rest := by
    rw [← htext]
    simp
  obtain ⟨_, rfl⟩ := first_quote hbody hquote hslash hwhole
  obtain ⟨c, hc, hdigit⟩ := isVersion_head hold (['"'] ++ after)
  rw [List.append_assoc] at hrest
  rw [hrest c hc] at hdigit
  cases hdigit

theorem setInlineVersions_escaped (version : List Char) {body : List Char}
    (hbody : isEscaped body = true) (hrest : ∀ c ∈ rest.head?, isDigit c = false) :
    setInlineVersions version (body ++ '"' :: rest) =
      body ++ '"' :: setInlineVersions version rest := by
  fun_induction isEscaped body with
  | case1 =>
    rw [List.nil_append, List.nil_append,
      setInlineVersions_cons version (inlineVersion?_of_not_opens (by decide) rest)]
  | case2 c body ih =>
    simp only [List.cons_append]
    rw [setInlineVersions_cons version (inlineVersion?_of_not_opens (by decide) _),
      setInlineVersions_cons version (inlineVersion?_escaped hbody hrest c), ih hbody]
  | case3 => cases hbody
  | case4 c body _ _ ih =>
    rw [Bool.and_eq_true] at hbody
    rw [List.cons_append, setInlineVersions_cons version (inlineVersion?_escaped hbody.2 hrest c),
      ih hbody.2, List.cons_append]

theorem Quoted.sets {quoted : Quoted} (h : quoted.Valid) :
    Sets version quoted.render (quoted.stamp version).render := by
  intro rest hrest
  cases quoted with
  | basic body =>
    have hbody := setInlineVersions_escaped version h hrest
    have hopen : inlineVersion? ('"' :: (body ++ '"' :: rest)) = none :=
      inlineVersion?_of_not_opens (by decide) _
    simp only [Quoted.render, Quoted.stamp, List.cons_append, List.append_assoc, List.nil_append]
    rw [setInlineVersions_cons version hopen, hbody]
  | literal body =>
    have happart : Apart '\'' := by constructor <;> decide
    have hbody := setInlineVersions_apart version happart body rest
    have hopen : inlineVersion? ('\'' :: (body ++ '\'' :: rest)) = none :=
      inlineVersion?_of_not_opens (by decide) _
    simp only [Quoted.render, Quoted.stamp, List.cons_append, List.append_assoc, List.nil_append]
    rw [setInlineVersions_cons version hopen, hbody]

theorem hasPathKey_between (h : PathApart d) (body rest : List Char) :
    hasPathKey (d :: (body ++ d :: rest)) = true ↔
      LooksLikePath body ∨ hasPathKey rest = true := by
  have hopen := hasPathKey_apart h [] (body ++ d :: rest)
  have hnil : ¬ hasPathKey [] = true := Bool.false_ne_true
  rw [List.nil_append, or_iff_right hnil, hasPathKey_apart h] at hopen
  rw [hopen, looksLikePath_iff]

theorem Quoted.finds (quoted : Quoted) : Finds quoted.render (LooksLikePath quoted.body) := by
  intro rest
  cases quoted with
  | basic body =>
    have happart : PathApart '"' := by constructor <;> decide
    simpa [Quoted.render, Quoted.body] using hasPathKey_between happart body rest
  | literal body =>
    have happart : PathApart '\'' := by constructor <;> decide
    simpa [Quoted.render, Quoted.body] using hasPathKey_between happart body rest

end ReleaseStamp.Manifest.Nested
