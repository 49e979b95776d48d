import ReleaseStamp.Proofs.Manifest.Structured

/-!
# Parts of a line that are read on their own

No field of an inline table goes across certain characters, so that what stands on either side of
one is read as if the other side were not there. The endings of lines begin with such characters.
-/
namespace ReleaseStamp.Manifest

open Text (isBlank isDigit)

variable {text a b : List Char} {c d : Char}

theorem prefix_append_cons {part : List Char} (hd : d ∉ part) :
    part <+: a ++ d :: b ↔ part <+: a := by
  constructor
  · intro h
    have hmark : a ++ [d] <+: a ++ d :: b :=
      (List.prefix_append_right_inj a).mpr ⟨b, rfl⟩
    rcases List.prefix_or_prefix_of_prefix h hmark with hshort | hlong
    · rcases List.prefix_concat_iff.mp hshort with rfl | hpart
      · exact absurd (List.mem_append_right a List.mem_cons_self) hd
      · exact hpart
    · exact absurd (hlong.subset (List.mem_append_right a List.mem_cons_self)) hd
  · intro h
    exact h.trans (List.prefix_append a _)

/-- A character that no version of an inline table has in it. -/
structure Apart (d : Char) : Prop where
  opens : opensKey d = false
  blank : isBlank d = false
  key : d ∉ versionKey
  sign : d ≠ '='
  quote : d ≠ '"'
  digit : isDigit d = false
  suffix : isSuffixChar d = false

theorem Apart.not_mem_version (h : Apart d) (hold : IsVersion text) : d ∉ text := by
  intro hd
  rcases hold.mem hd with hdigit | hsuffix
  · rw [h.digit] at hdigit
    cases hdigit
  · rw [h.suffix] at hsuffix
    cases hsuffix

theorem inlineVersion?_append_apart (h : Apart d) (hread : inlineVersion? (c :: a) = none) :
    inlineVersion? (c :: (a ++ d :: b)) = none := by
  rw [← Option.not_isSome_iff_eq_none] at hread ⊢
  intro hsome
  apply hread
  obtain ⟨hmark, lead, part, old, hlead, hpart, hold, hstart⟩ := inlineVersion?_isSome_iff.mp hsome
  have hd : d ∉ lead ++ part ++ '"' :: (old ++ ['"']) := by
    simp [hlead.not_mem h.blank, hpart.not_mem h.key h.blank h.sign, h.not_mem_version hold,
      h.quote]
  exact inlineVersion?_isSome_iff.mpr
    ⟨hmark, lead, part, old, hlead, hpart, hold, (prefix_append_cons hd).mp hstart⟩

/-- Both sides of such a character are read on their own. -/
theorem setInlineVersions_apart (version : List Char) (h : Apart d) (a b : List Char) :
    setInlineVersions version (a ++ d :: b) =
      setInlineVersions version a ++ d :: setInlineVersions version b := by
  induction a using inline_induction with
  | nil =>
    rw [setInlineVersions_nil, List.nil_append, List.nil_append,
      setInlineVersions_cons version (inlineVersion?_of_not_opens h.opens b)]
  | field line found hread ih =>
    obtain ⟨hpart, hold, whole⟩ := inlineVersion?_iff.mp hread
    have hmore : inlineVersion? (line ++ d :: b) =
        some ⟨found.before, found.version, found.after ++ d :: b⟩ :=
      inlineVersion?_iff.mpr ⟨hpart, hold, by rw [whole]; simp⟩
    rw [setInlineVersions_field version hread, setInlineVersions_field version hmore, ih]
    simp
  | cons c rest hread ih =>
    rw [List.cons_append, setInlineVersions_cons version (inlineVersion?_append_apart h hread),
      setInlineVersions_cons version hread, ih, List.cons_append]

structure PathApart (d : Char) : Prop where
  opens : opensKey d = false
  blank : isBlank d = false
  key : d ∉ pathKey
  sign : d ≠ '='

theorem hasPathKey_apart (h : PathApart d) (a b : List Char) :
    hasPathKey (a ++ d :: b) = true ↔ hasPathKey a = true ∨ hasPathKey b = true := by
  induction a with
  | nil => simp [hasPathKey, h.opens]
  | cons c a ih =>
    have hkey : ∀ lead gap, Blanks lead → Blanks gap →
        (lead ++ (pathKey ++ (gap ++ ['='])) <+: a ++ d :: b ↔
          lead ++ (pathKey ++ (gap ++ ['='])) <+: a) := by
      intro lead gap hlead hgap
      refine prefix_append_cons ?_
      simp [hlead.not_mem h.blank, hgap.not_mem h.blank, h.key, h.sign]
    rw [List.cons_append, hasPathKey_cons, hasPathKey_cons, ih, or_assoc]
    refine or_congr_left (and_congr_right fun _ => ?_)
    constructor
    · rintro ⟨lead, gap, hlead, hgap, hstart⟩
      exact ⟨lead, gap, hlead, hgap, (hkey lead gap hlead hgap).mp hstart⟩
    · rintro ⟨lead, gap, hlead, hgap, hstart⟩
      exact ⟨lead, gap, hlead, hgap, (hkey lead gap hlead hgap).mpr hstart⟩

/-- An ending that is not missing begins with a character that nothing is read across. -/
theorem ending_cases (ending : Ending) : ending.text = [] ∨
    ∃ c rest, ending.text = c :: rest ∧ NoMarks rest ∧ Apart c ∧ PathApart c := by
  have hfeed : Apart '\n' ∧ PathApart '\n' := by
    constructor <;> constructor <;> decide
  have hreturn : Apart '\r' ∧ PathApart '\r' := by
    constructor <;> constructor <;> decide
  cases ending with
  | missing => exact .inl rfl
  | feed => exact .inr ⟨'\n', [], rfl, by decide, hfeed⟩
  | returnFeed => exact .inr ⟨'\r', ['\n'], rfl, by decide, hreturn⟩
  | bareReturn => exact .inr ⟨'\r', [], rfl, by decide, hreturn⟩

theorem setInlineVersions_ending (version text : List Char) (ending : Ending) :
    setInlineVersions version (text ++ ending.text) =
      setInlineVersions version text ++ ending.text := by
  rcases ending_cases ending with hend | ⟨c, rest, hend, hrest, hc, -⟩
  · rw [hend, List.append_nil, List.append_nil]
  · rw [hend, setInlineVersions_apart version hc, setInlineVersions_of_noMarks version hrest]

theorem hasPathKey_ending (text : List Char) (ending : Ending) :
    hasPathKey (text ++ ending.text) = hasPathKey text := by
  rcases ending_cases ending with hend | ⟨c, rest, hend, hrest, -, hc⟩
  · rw [hend, List.append_nil]
  · rw [Bool.eq_iff_iff, hend, hasPathKey_apart hc, hasPathKey_of_noMarks hrest]
    simp

theorem setPathVersions_append (version : List Char) (h : NoMarks a) (b : List Char) :
    setPathVersions version (a ++ b) = a ++ setPathVersions version b := by
  have hbrace : '\x7b' ∉ a := fun hm => absurd (h _ hm) (by decide)
  have hpath : isPathLine (a ++ b) = isPathLine b := by
    rw [Bool.eq_iff_iff, isPathLine_iff, isPathLine_iff, hasPathKey_append h]
    simp [hbrace]
  rw [setPathVersions, setPathVersions, hpath, setInlineVersions_append version h]
  split
  · rfl
  · rfl

theorem setPathVersions_ending (version text : List Char) (ending : Ending) :
    setPathVersions version (text ++ ending.text) =
      setPathVersions version text ++ ending.text := by
  have hbrace : '\x7b' ∉ ending.text := fun hm => absurd (ending.noMarks _ hm) (by decide)
  have hpath : isPathLine (text ++ ending.text) = isPathLine text := by
    rw [Bool.eq_iff_iff, isPathLine_iff, isPathLine_iff, hasPathKey_ending]
    simp [hbrace]
  rw [setPathVersions, setPathVersions, hpath, setInlineVersions_ending]
  split
  · rfl
  · rfl

end ReleaseStamp.Manifest
