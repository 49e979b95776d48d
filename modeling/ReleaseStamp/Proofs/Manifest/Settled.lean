import ReleaseStamp.Proofs.Manifest.LastVersion
import ReleaseStamp.Proofs.Manifest.Place

/-!
# Nothing is left to be set

A version number that is set in a manifest reaches every field that it is meant for. Setting it once
more changes nothing, so that each line is as that second pass leaves it; a field with another
version would have been changed there.
-/
namespace ReleaseStamp.Manifest

/-- What a version number is to be set in, on a line that stands in `table`: the line's own version,
or one of its inline versions. -/
inductive Eligible (table : List Char) : (line old : List Char) → Prop where
  /-- A version line of a package. -/
  | own {key old trail} (ending : Ending) : isPackageTable table = true →
      KeyPart versionKey key → IsVersion old → Blanks trail →
      Eligible table (key ++ '"' :: (old ++ '"' :: (trail ++ ending.text))) old
  /-- A version in an inline table, on a line that is no header and has a path key and a brace. -/
  | inline {line before path behind lead key old trail} :
      tableName? line = none → '\x7b' ∈ line →
      InlineKeyPart pathKey path → line = before ++ (path ++ behind) →
      InlineKeyPart versionKey key → IsVersion old →
      line = lead ++ (key ++ '"' :: (old ++ '"' :: trail)) →
      Eligible table line old

variable {version : List Char}

theorem hasPathKey_of_mem {before path behind : List Char} (h : InlineKeyPart pathKey path) :
    hasPathKey (before ++ (path ++ behind)) = true := by
  obtain ⟨mark, lead, part, hmark, hlead, ⟨gap, pad, hgap, _, rfl⟩, rfl⟩ := h
  induction before with
  | nil =>
    refine hasPathKey_cons.mpr (Or.inl ⟨hmark, lead, gap, hlead, hgap, pad ++ behind, ?_⟩)
    simp
  | cons c before ih => exact hasPathKey_cons.mpr (Or.inr ih)

/-- A mark does not stand in a text without marks, so that it stands behind it. -/
theorem exists_lead_of_noMarks {front rest lead tail : List Char} {mark : Char}
    (hfront : NoMarks front) (hmark : opensKey mark = true)
    (h : front ++ rest = lead ++ mark :: tail) : ∃ lead', rest = lead' ++ mark :: tail := by
  rcases List.append_eq_append_iff.mp h with ⟨lead', _, hrest⟩ | ⟨inside, rfl, hinside⟩
  · exact ⟨lead', hrest⟩
  · cases inside with
    | nil => exact ⟨[], hinside.symm⟩
    | cons c inside =>
      cases (List.cons.inj hinside).1
      have hnot := hfront mark (List.mem_append_right lead List.mem_cons_self)
      rw [hmark] at hnot
      cases hnot

/-- Where the substitution changes nothing, no inline version differs from what it sets. A key of an
inline table begins at a mark, and in a field there is no mark but its first character. -/
theorem eq_of_setInlineVersions_eq {line lead key old trail : List Char}
    (hfixed : setInlineVersions version line = line) (hkey : InlineKeyPart versionKey key)
    (hold : IsVersion old) (hversion : '"' ∉ version)
    (hline : line = lead ++ (key ++ '"' :: (old ++ '"' :: trail))) : old = version := by
  induction line using inline_induction generalizing lead with
  | nil => simp at hline
  | field line found hread ih =>
    obtain ⟨hpart, hfound, whole⟩ := inlineVersion?_iff.mp hread
    rw [setInlineVersions_field version hread, whole, Field.fill_eq] at hfixed
    obtain ⟨heq, hafter⟩ := split_at_first hversion hfound.inert.quote
      (List.cons.inj (List.append_cancel_left hfixed)).2
    cases lead with
    | nil =>
      have hagain : inlineVersion? line = some ⟨key, old, trail⟩ :=
        inlineVersion?_iff.mpr ⟨hkey, hold, by rw [hline, Field.fill_eq, List.nil_append]⟩
      rw [hread] at hagain
      cases hagain
      exact heq.symm
    | cons c lead =>
      obtain ⟨mark, tail, hmark, htail, hbefore⟩ := hpart.split noMarks_versionKey
      obtain ⟨mark', tail', hmark', _, rfl⟩ := hkey.split noMarks_versionKey
      have hlead : NoMarks (tail ++ '"' :: (found.version ++ ['"'])) := by
        have hquote : opensKey '"' = false := by decide
        simp [htail, hfound.inert.noMarks, hquote]
      have hsplit : tail ++ '"' :: (found.version ++ ['"']) ++ found.after =
          lead ++ mark' :: (tail' ++ '"' :: (old ++ '"' :: trail)) := by
        have hboth := whole.symm.trans hline
        rw [Field.fill_eq, hbefore, List.cons_append, List.cons_append] at hboth
        simpa using (List.cons.inj hboth).2
      obtain ⟨lead', hbehind⟩ := exists_lead_of_noMarks hlead hmark' hsplit
      exact ih hafter hbehind
  | cons c rest hread ih =>
    rw [setInlineVersions_cons version hread] at hfixed
    have hrest := (List.cons.inj hfixed).2
    cases lead with
    | nil =>
      have hsome : inlineVersion? (c :: rest) = some ⟨key, old, trail⟩ :=
        inlineVersion?_iff.mpr ⟨hkey, hold, by rw [hline, Field.fill_eq, List.nil_append]⟩
      rw [hread] at hsome
      cases hsome
    | cons d lead => exact ih hrest (List.cons.inj hline).2

/-- A line that a pass leaves as it is holds no other version in the fields that the pass sets. -/
theorem Eligible.eq_of_bumpLine_eq {table line old : List Char} (hversion : Inert version)
    (h : Eligible table line old) (hfixed : bumpLine table version line = line) :
    old = version := by
  cases h with
  | @own key old trail ending htable hkey hold htrail =>
    have hread := ownVersion?_ending hkey hold htrail ending
    rw [bumpLine_package htable, setOwnVersion_field version hread,
      setPathVersions_fill hread hversion.brace, Field.fill_eq] at hfixed
    exact (split_at_first hversion.quote hold.inert.quote
      (List.cons.inj (List.append_cancel_left hfixed)).2).1.symm
  | inline _ hbrace hpath hpathLine hkey hold hline =>
    have hpathKey : isPathLine line = true :=
      isPathLine_iff.mpr ⟨hbrace, by rw [hpathLine]; exact hasPathKey_of_mem hpath⟩
    rw [bumpLine_inline (ownVersion?_eq_none_of_brace hbrace), setPathVersions,
      if_pos hpathKey] at hfixed
    exact eq_of_setInlineVersions_eq hfixed hkey hold hversion.quote hline

theorem Eligible.tableName?_eq {table line old : List Char} (h : Eligible table line old) :
    tableName? line = none := by
  cases h with
  | own _ _ hkey => exact tableName?_keyPart hkey _
  | inline hname => exact hname

theorem bumpLine_of_bumpedLines_eq {table line : List Char} {above below : List (List Char)}
    (hfixed : bumpedLines version table (above ++ line :: below) = above ++ line :: below)
    (hname : tableName? line = none) :
    bumpLine (tableAfter table above) version line = line := by
  induction above generalizing table with
  | nil =>
    rw [List.nil_append, bumpedLines_line version hname] at hfixed
    exact (List.cons.inj hfixed).1
  | cons first above ih =>
    rw [List.cons_append] at hfixed
    rw [tableAfter]
    cases hfirst : tableName? first with
    | none =>
      rw [bumpedLines_line version hfirst] at hfixed
      exact ih (List.cons.inj hfixed).2
    | some name =>
      rw [bumpedLines_header version hfirst] at hfixed
      exact ih (List.cons.inj hfixed).2

/-- Once a version number has been set, it stands in every field that is eligible for it. The tables
and the fields are those of the new text. -/
theorem eligible_eq_version {version : String} (h : IsVersion version.toList) (contents : String)
    {above below : List (List Char)} {line old : List Char}
    (hlines : Text.lines (bump contents version).toList = above ++ line :: below)
    (heligible : Eligible (tableAfter [] above) line old) : old = version.toList := by
  rw [bump, String.toList_ofList, lines_bumpText h.inert] at hlines
  have hfixed :
    bumpedLines version.toList [] (above ++ line :: below) = above ++ line :: below := by
    rw [← hlines]
    exact bumpedLines_bumpedLines h.inert (Or.inl h) [] _
  exact heligible.eq_of_bumpLine_eq h.inert
    (bumpLine_of_bumpedLines_eq hfixed heligible.tableName?_eq)

theorem eligible_eq_version_path :
    let contents :=
      "[workspace.package]\nversion = \"1.0.0\"\r\na = \x7b path = \"a\", version = \"0.1.0\" \x7d"
    let header := "[workspace.package]\n".toList
    let own := "version = \"2.0.0\"\r\n".toList
    let line := "a = \x7b path = \"a\", version = \"2.0.0\" \x7d".toList
    (IsVersion "2.0.0".toList ∧
      Text.lines (bump contents "2.0.0").toList = [header, own] ++ line :: [] ∧
      Eligible (tableAfter [] [header, own]) line "2.0.0".toList) ∧
    "2.0.0".toList = "2.0.0".toList := by
  intro contents header own line
  have hversion : IsVersion "2.0.0".toList := by decide
  have hlines : Text.lines (bump contents "2.0.0").toList = [header, own] ++ line :: [] := by
    decide +kernel
  have hpath : InlineKeyPart pathKey "\x7b path = ".toList :=
    ⟨'\x7b', [' '], "path = ".toList, by decide, by decide,
      ⟨[' '], [' '], by decide, by decide, rfl⟩, rfl⟩
  have hkey : InlineKeyPart versionKey ", version = ".toList :=
    ⟨',', [' '], "version = ".toList, by decide, by decide,
      ⟨[' '], [' '], by decide, by decide, rfl⟩, rfl⟩
  have hpathLine : line = "a = ".toList ++
      ("\x7b path = ".toList ++ "\"a\", version = \"2.0.0\" \x7d".toList) := rfl
  have hline : line = "a = \x7b path = \"a\"".toList ++
      (", version = ".toList ++ '"' :: ("2.0.0".toList ++ '"' :: " \x7d".toList)) := rfl
  have heligible : Eligible (tableAfter [] [header, own]) line "2.0.0".toList :=
    .inline (by decide) (by decide) hpath hpathLine hkey hversion hline
  exact ⟨⟨hversion, hlines, heligible⟩, eligible_eq_version hversion contents hlines heligible⟩

end ReleaseStamp.Manifest
