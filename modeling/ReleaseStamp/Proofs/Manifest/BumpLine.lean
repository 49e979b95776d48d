import ReleaseStamp.Proofs.Manifest.Header

/-!
# Setting the version of one line

A line has a version of its own or inline versions, never both. A pass over a line keeps what the
next pass decides by: whether it is a header, has a path key, or sets a version of its own. So a
second pass meets the same fields, or, where the first version is not recognised as one, fields
that hold what it sets already.
-/
namespace ReleaseStamp.Manifest

open Text (isBlank)

def setPathVersions (version line : List Char) : List Char :=
  if isPathLine line then setInlineVersions version line else line

theorem bumpLine_package {table : List Char} (h : isPackageTable table = true)
    (version line : List Char) :
    bumpLine table version line = setPathVersions version (setOwnVersion version line) := by
  simp [bumpLine, h, setPathVersions]

theorem bumpLine_other {table : List Char} (h : isPackageTable table = false)
    (version line : List Char) : bumpLine table version line = setPathVersions version line := by
  simp [bumpLine, h, setPathVersions]

/-- Without a version of its own, only the inline versions of a line matter. -/
theorem bumpLine_inline {line : List Char} (h : ownVersion? line = none)
    (version table : List Char) : bumpLine table version line = setPathVersions version line := by
  cases htable : isPackageTable table with
  | true => rw [bumpLine_package htable, setOwnVersion_none version h]
  | false => rw [bumpLine_other htable]

theorem setPathVersions_edited (version line : List Char) :
    Edited version line (setPathVersions version line) := by
  unfold setPathVersions
  split
  · exact setInlineVersions_edited version line
  · exact .refl version line

theorem isLineEnd_mem {rest : List Char} (h : isLineEnd rest = true) {c : Char} (hc : c ∈ rest) :
    isBlank c = true ∨ c = '\n' ∨ c = '\r' := by
  rw [← List.takeWhile_append_dropWhile (p := isBlank) (l := rest), List.mem_append] at hc
  rcases hc with hc | hc
  · exact Or.inl (List.mem_takeWhile_imp hc)
  · simp only [isLineEnd, List.contains_iff_mem, List.mem_cons, List.not_mem_nil, or_false] at h
    rcases h with h | h | h | h <;> rw [h] at hc <;> simp at hc
    · exact Or.inr (Or.inl hc)
    · exact Or.inr (Or.inr hc)
    · exact Or.inr hc.symm

theorem brace_not_mem_fill {field : Field} {version : List Char}
    (hpart : KeyPart versionKey field.before) (hend : isLineEnd field.after = true)
    (hversion : '\x7b' ∉ version) : '\x7b' ∉ field.fill version := by
  have hbefore : '\x7b' ∉ field.before := hpart.not_mem (by decide) (by decide) (by decide)
  have hafter : '\x7b' ∉ field.after := by
    intro hm
    rcases isLineEnd_mem hend hm with h | h | h <;> revert h <;> decide
  simp [hbefore, hversion, hafter]

/-- A line without a brace is no path line. -/
theorem setPathVersions_of_not_mem {line : List Char} (h : '\x7b' ∉ line) (version : List Char) :
    setPathVersions version line = line := by
  rw [setPathVersions, if_neg]
  rw [isPathLine_iff]
  rintro ⟨hbrace, _⟩
  exact h hbrace

/-- A line with a version of its own is no path line, and does not become one. -/
theorem setPathVersions_fill {line version : List Char} {field : Field}
    (hread : ownVersion? line = some field) (hversion : '\x7b' ∉ version) (second : List Char) :
    setPathVersions second (field.fill version) = field.fill version := by
  obtain ⟨hpart, _, hend, _⟩ := ownVersion?_iff.mp hread
  exact setPathVersions_of_not_mem (brace_not_mem_fill hpart hend hversion) second

theorem ownVersion?_eq_none_of_brace {line : List Char} (h : '\x7b' ∈ line) :
    ownVersion? line = none := by
  by_contra hne
  obtain ⟨field, hread⟩ := Option.ne_none_iff_exists'.mp hne
  obtain ⟨hpart, hold, hend, rfl⟩ := ownVersion?_iff.mp hread
  exact brace_not_mem_fill hpart hend hold.inert.brace h

theorem ownVersion?_setPathVersions (version : List Char) {line : List Char}
    (h : ownVersion? line = none) : ownVersion? (setPathVersions version line) = none := by
  unfold setPathVersions
  split
  · rename_i hpath
    apply ownVersion?_eq_none_of_brace
    exact (setInlineVersions_edited version line).mem_of_mem (fun _ hold => hold.inert.brace)
      (isPathLine_iff.mp hpath).1
  · exact h

variable {first second : List Char}

theorem setPathVersions_setPathVersions (hfirst : Inert first)
    (h : IsVersion first ∨ first = second) (line : List Char) :
    setPathVersions second (setPathVersions first line) = setPathVersions second line := by
  by_cases hpath : isPathLine line = true
  · have hagain := isPathLine_setInlineVersions hfirst.noMarks hpath
    simp only [setPathVersions, if_pos hpath, if_pos hagain]
    exact setInlineVersions_setInlineVersions hfirst.quote hfirst.noMarks h line
  · simp only [setPathVersions, if_neg hpath]

theorem ownVersion?_fill {line : List Char} {field : Field} (hread : ownVersion? line = some field)
    (hfirst : IsVersion first) :
    ownVersion? (field.fill first) = some ⟨field.before, first, field.after⟩ := by
  obtain ⟨hpart, _, hend, _⟩ := ownVersion?_iff.mp hread
  exact ownVersion?_iff.mpr ⟨hpart, hfirst, hend, rfl⟩

theorem setOwnVersion_fill {line : List Char} {field : Field}
    (hread : ownVersion? line = some field) (hquote : '"' ∉ first)
    (h : IsVersion first ∨ first = second) :
    setOwnVersion second (field.fill first) = field.fill second := by
  by_cases hfirst : IsVersion first
  · rw [setOwnVersion_field second (ownVersion?_fill hread hfirst), Field.fill_eq, Field.fill_eq]
  · have hpart := (ownVersion?_iff.mp hread).1
    obtain rfl := h.resolve_left hfirst
    rw [Field.fill_eq, setOwnVersion_none first (ownVersion?_eq_none hpart hquote hfirst)]

/-- The second pass over a line gives what it would have given without the first. -/
theorem bumpLine_bumpLine (hfirst : Inert first) (h : IsVersion first ∨ first = second)
    (table line : List Char) :
    bumpLine table second (bumpLine table first line) = bumpLine table second line := by
  cases htable : isPackageTable table with
  | false =>
    simp only [bumpLine_other htable]
    exact setPathVersions_setPathVersions hfirst h line
  | true =>
    simp only [bumpLine_package htable]
    cases hread : ownVersion? line with
    | some field =>
      rw [setOwnVersion_field first hread, setPathVersions_fill hread hfirst.brace,
        setOwnVersion_fill hread hfirst.quote h, setOwnVersion_field second hread]
    | none =>
      rw [setOwnVersion_none first hread, setOwnVersion_none second hread,
        setOwnVersion_none second (ownVersion?_setPathVersions first hread),
        setPathVersions_setPathVersions hfirst h]

theorem bumpLine_edited {version : List Char} (hversion : '\x7b' ∉ version)
    (table line : List Char) : Edited version line (bumpLine table version line) := by
  cases htable : isPackageTable table with
  | false =>
    rw [bumpLine_other htable]
    exact setPathVersions_edited version line
  | true =>
    rw [bumpLine_package htable]
    cases hread : ownVersion? line with
    | some field =>
      have hedited := setOwnVersion_edited version line
      rw [setOwnVersion_field version hread] at hedited ⊢
      rwa [setPathVersions_fill hread hversion]
    | none =>
      rw [setOwnVersion_none version hread]
      exact setPathVersions_edited version line

theorem tableName?_bumpLine {version line : List Char} (hversion : ']' ∉ version)
    (hbrace : '\x7b' ∉ version) (table : List Char) (h : tableName? line = none) :
    tableName? (bumpLine table version line) = none := by
  have hpath : tableName? (setPathVersions version line) = none := by
    unfold setPathVersions
    split
    · exact tableName?_setInlineVersions hversion h
    · exact h
  cases htable : isPackageTable table with
  | false => rwa [bumpLine_other htable]
  | true =>
    rw [bumpLine_package htable]
    cases hread : ownVersion? line with
    | some field =>
      rw [setOwnVersion_field version hread, setPathVersions_fill hread hbrace, Field.fill_eq]
      exact tableName?_keyPart (ownVersion?_iff.mp hread).1 _
    | none => rwa [setOwnVersion_none version hread]

end ReleaseStamp.Manifest
