import ReleaseStamp.Proofs.Manifest.OwnVersion
import ReleaseStamp.Proofs.Manifest.Package
import ReleaseStamp.Proofs.Text.Pattern
import ReleaseStamp.Proofs.Text.Trim

/-!
# The pattern of a header

Headers are given by a pattern whose parts compete for what stands in the brackets: the second
bracket, the blanks around the name and the name itself, which may begin with a bracket and hold
blanks. Whatever they agree on, the name is that of a package exactly if it is so without one
bracket and the blanks, and this alone decides about the version line below.
-/
namespace ReleaseStamp.Manifest

open Text (Pattern isBlank)

variable {line inside lead name pad rest : List Char}

def closingPattern : Pattern := .many isBlank ++ .one (· == ']')

def namePattern : Pattern := .group (.few (· != ']')) ++ closingPattern

def insidePattern : Pattern := .many isBlank ++ namePattern

def bracketPattern : Pattern := .optional (.one (· == '[')) ++ insidePattern

/-- As a regular expression, this is `^[ \t]*\[\[?[ \t]*([^\]]+?)[ \t]*\]`. -/
def headerPattern : Pattern := .many isBlank ++ (.one (· == '[') ++ bracketPattern)

/-- A header, with what stands between its brackets. -/
def IsHeader (line inside : List Char) : Prop :=
  ∃ lead rest, Blanks lead ∧ inside ≠ [] ∧ ']' ∉ inside ∧
    line = lead ++ '[' :: (inside ++ ']' :: rest)

/-- What is captured of the text in the brackets: its name or, without one, its last character. -/
def capturedName (inside : List Char) : List Char :=
  match bracketName inside with
  | [] => inside.getLast?.toList
  | name => name

theorem captured?_bracket_none {next : Pattern} {c : Char} (hc : c ≠ '[') :
    (.one (· == '[') ++ next : Pattern).captured? (c :: rest) = none :=
  Text.captured?_one_stop (by simpa using hc)

theorem captured?_closing_bracket_none {c : Char} (hc : c ≠ ']') :
    (Pattern.one (· == ']')).captured? (c :: rest) = none :=
  Text.captured?_one_eq_none (by simpa using hc)

theorem captured?_closing (hpad : Blanks pad) :
    closingPattern.captured? (pad ++ ']' :: rest) = some [] := by
  have hstop : ∀ c ∈ (']' :: rest).head?, isBlank c = false := by
    rintro c ⟨⟩
    decide
  rw [closingPattern, Text.captured?_many, hpad.dropWhile_append hstop, Text.captured?_one (by rfl)]
  intro c rest hc
  refine captured?_closing_bracket_none ?_
  rintro rfl
  cases hc

theorem captured?_closing_none {c : Char} (hc : c ∈ name) (hblank : isBlank c = false)
    (hname : ']' ∉ name) : closingPattern.captured? (name ++ rest) = none := by
  induction name with
  | nil => cases hc
  | cons d name ih =>
    rw [List.mem_cons, not_or] at hname
    have hother : ∀ rest, (Pattern.one (· == ']')).captured? (d :: rest) = none :=
      fun rest => captured?_closing_bracket_none (Ne.symm hname.1)
    rw [closingPattern, List.cons_append]
    cases hd : isBlank d with
    | false => rw [Text.captured?_many_stop (by rintro _ ⟨⟩; exact hd), hother]
    | true =>
      have hmem : c ∈ name := by
        refine (List.mem_cons.mp hc).resolve_left ?_
        rintro rfl
        cases hd.symm.trans hblank
      have hrest := ih hmem hname.2
      rw [closingPattern] at hrest
      rw [Text.captured?_many_cons hd, hrest, hother]
      rfl

def EndsName (name : List Char) : Prop := ∀ c ∈ name.tail.getLast?, isBlank c = false

theorem captured?_name (hne : name ≠ []) (hname : ']' ∉ name) (hends : EndsName name)
    (hpad : Blanks pad) :
    namePattern.captured? (name ++ (pad ++ ']' :: rest)) = some name := by
  induction name with
  | nil => exact absurd rfl hne
  | cons c name ih =>
    rw [List.mem_cons, not_or] at hname
    have hc : (c != ']') = true := by simpa using Ne.symm hname.1
    rw [namePattern, List.cons_append, Text.captured?_few_cons (p := (· != ']')) hc]
    cases name with
    | nil =>
      rw [List.nil_append, captured?_closing hpad]
      rfl
    | cons d name =>
      have hlast := List.getLast?_eq_some_getLast (List.cons_ne_nil d name)
      have htail : EndsName (d :: name) := fun e he => hends e (List.mem_getLast?_cons he)
      rw [captured?_closing_none (List.getLast_mem _) (hends _ hlast) hname.2, Option.none_or]
      have hrest := ih (List.cons_ne_nil d name) hname.2 htail
      rw [namePattern] at hrest
      rw [hrest]
      rfl

theorem captured?_name_none : namePattern.captured? (']' :: rest) = none :=
  Text.captured?_few_stop (by rintro _ ⟨⟩; decide)

/-- Blanks in front are left out, as long as something is left. -/
theorem captured?_inside_blanks (hlead : Blanks lead) {text : List Char} {captured : List Char}
    (h : insidePattern.captured? text = some captured) :
    insidePattern.captured? (lead ++ text) = some captured := by
  induction lead with
  | nil => exact h
  | cons c lead ih =>
    obtain ⟨hc, hlead⟩ := List.forall_mem_cons.mp hlead
    have hrest := ih hlead
    rw [insidePattern] at hrest ⊢
    rw [List.cons_append, Text.captured?_many_cons hc, hrest]
    rfl

theorem captured?_inside_stop {c : Char} {text : List Char} (hc : isBlank c = false) :
    insidePattern.captured? (c :: text) = namePattern.captured? (c :: text) :=
  Text.captured?_many_stop (by rintro _ ⟨⟩; exact hc)

theorem captured?_inside_none : insidePattern.captured? (']' :: rest) = none := by
  rw [captured?_inside_stop (by decide), captured?_name_none]

/-- The last blank is captured if there is nothing else. -/
theorem captured?_inside_blank {c : Char} (hc : isBlank c = true) :
    insidePattern.captured? (c :: ']' :: rest) = some [c] := by
  have hbracket : c ≠ ']' := by
    rintro rfl
    cases hc
  have hends : EndsName [c] := by simp [EndsName]
  have hname : namePattern.captured? ([c] ++ ([] ++ ']' :: rest)) = some [c] :=
    captured?_name (List.cons_ne_nil c []) (by simpa using Ne.symm hbracket) hends
      (List.forall_mem_nil _)
  have hnone : insidePattern.captured? (']' :: rest) = none := captured?_inside_none
  rw [insidePattern] at hnone ⊢
  rw [Text.captured?_many_cons hc, hnone]
  exact hname

def trimmedName (inside : List Char) : List Char :=
  match Text.trimBy isBlank inside with
  | [] => inside.getLast?.toList
  | name => name

theorem captured?_inside (hne : inside ≠ []) (hinside : ']' ∉ inside) :
    insidePattern.captured? (inside ++ ']' :: rest) = some (trimmedName inside) := by
  obtain ⟨before, after, hwhole, hbefore, hafter, hbare⟩ := Text.exists_padded isBlank inside
  rw [trimmedName]
  split
  · rename_i hnone
    rw [hnone, List.append_nil] at hwhole
    have hblanks : Blanks inside := hwhole ▸ List.forall_mem_append.mpr ⟨hbefore, hafter⟩
    obtain ⟨lead, last, rfl⟩ := (List.eq_nil_or_concat' inside).resolve_left hne
    obtain ⟨hlead, hlast⟩ := List.forall_mem_append.mp hblanks
    rw [List.append_assoc, List.getLast?_concat]
    exact captured?_inside_blanks hlead (captured?_inside_blank (hlast last List.mem_cons_self))
  · rename_i hsome
    have hmem : ∀ c ∈ Text.trimBy isBlank inside, c ∈ inside := by
      intro c hc
      rw [hwhole]
      simp [hc]
    obtain ⟨c, name, hname⟩ := List.exists_cons_of_ne_nil hsome
    have hends : EndsName (c :: name) := by
      intro d hd
      exact hbare.last d (hname ▸ List.mem_getLast?_cons hd)
    have hcaptured : insidePattern.captured? (c :: name ++ (after ++ ']' :: rest)) =
        some (c :: name) := by
      rw [List.cons_append, captured?_inside_stop (hbare.first c (by simp [hname]))]
      exact captured?_name (List.cons_ne_nil c name) (fun hc => hinside (hmem _ (hname ▸ hc)))
        hends hafter
    have hinner := captured?_inside_blanks hbefore hcaptured
    rw [hname] at hwhole ⊢
    rw [hwhole]
    simpa using hinner

theorem capturedName_bracket (hne : inside ≠ []) :
    capturedName ('[' :: inside) = trimmedName inside := by
  obtain ⟨c, rest, rfl⟩ := List.exists_cons_of_ne_nil hne
  rw [capturedName, trimmedName, bracketName, List.getLast?_cons_cons]

theorem capturedName_other {c : Char} (hc : c ≠ '[') (rest : List Char) :
    capturedName (c :: rest) = trimmedName (c :: rest) := by
  have hname : bracketName (c :: rest) = Text.trimBy isBlank (c :: rest) := by
    unfold bracketName
    split
    · rename_i heq
      cases heq
      exact absurd rfl hc
    · rfl
  rw [capturedName, trimmedName, hname]

theorem captured?_bracket (hne : inside ≠ []) (hinside : ']' ∉ inside) :
    bracketPattern.captured? (inside ++ ']' :: rest) = some (capturedName inside) := by
  obtain ⟨c, inside, rfl⟩ := List.exists_cons_of_ne_nil hne
  have hwhole : insidePattern.captured? ((c :: inside) ++ ']' :: rest) =
      some (trimmedName (c :: inside)) := captured?_inside hne hinside
  rw [bracketPattern, List.cons_append]
  by_cases hc : c = '['
  · subst hc
    rw [Text.captured?_optional_cons (p := (· == '[')) (by rfl)]
    by_cases hempty : inside = []
    · subst hempty
      -- a lone second bracket is left for the name
      rw [List.nil_append, captured?_inside_none, Option.none_or]
      exact hwhole
    · have hrest : ']' ∉ inside := fun hm => hinside (List.mem_cons_of_mem _ hm)
      rw [captured?_inside hempty hrest, capturedName_bracket hempty]
      rfl
  · rw [Text.captured?_optional_stop (by rintro _ ⟨⟩; simpa using hc), capturedName_other hc]
    exact hwhole

theorem captured?_header (line : List Char) : headerPattern.captured? line =
    (.one (· == '[') ++ bracketPattern : Pattern).captured? (line.dropWhile isBlank) := by
  refine Text.captured?_many ?_ line
  intro c rest hc
  refine captured?_bracket_none ?_
  rintro rfl
  cases hc

theorem IsHeader.captured? (h : IsHeader line inside) :
    headerPattern.captured? line = some (capturedName inside) := by
  obtain ⟨lead, rest, hlead, hne, hinside, rfl⟩ := h
  have hstop : ∀ c ∈ ('[' :: (inside ++ ']' :: rest)).head?, isBlank c = false := by
    rintro c ⟨⟩
    decide
  rw [captured?_header, hlead.dropWhile_append hstop, Text.captured?_one_cons (by rfl),
    captured?_bracket hne hinside]

example : ["[[]", "[ ]", "[ [package]", "[[package ]"].map (headerPattern.captured? ·.toList) =
    [some ['['], some [' '], some "[package".toList, some "package".toList] := by decide

/-- Up to the first closing bracket, the pattern takes at least one character. -/
theorem takes_insidePattern {taken : List Char} {groups : List (List Char)}
    (h : insidePattern.Takes taken groups rest) :
    ∃ inside, inside ≠ [] ∧ ']' ∉ inside ∧ taken = inside ++ [']'] := by
  simp only [insidePattern, namePattern, closingPattern, Text.takes_append, Pattern.Takes] at h
  obtain ⟨lead, -, -, -, ⟨hlead, -⟩, ⟨name, -, -, -, ⟨-, ⟨hne, hname, -⟩, -⟩, ⟨pad, -, -, -,
    ⟨hpad, -⟩, ⟨c, hc, rfl, -⟩, rfl, -⟩, rfl, -⟩, rfl, -⟩ := h
  obtain rfl : c = ']' := by simpa using hc
  have hclosed : isBlank ']' = false := by decide
  refine ⟨lead ++ (name ++ pad), by simp [hne], ?_, by simp⟩
  simp only [List.mem_append, not_or]
  refine ⟨Blanks.not_mem hlead hclosed, ?_, Blanks.not_mem hpad hclosed⟩
  intro hm
  simpa using hname _ hm

/-- The pattern takes characters of headers only. -/
theorem exists_isHeader_of_takes {taken : List Char} {groups : List (List Char)}
    (htakes : headerPattern.Takes taken groups rest) :
    ∃ inside, IsHeader (taken ++ rest) inside := by
  simp only [headerPattern, bracketPattern, Text.takes_append, Pattern.Takes] at htakes
  obtain ⟨lead, -, -, -, ⟨hlead, -⟩, ⟨-, -, -, -, ⟨c, hc, rfl, -⟩, ⟨second, after, _, _, hsecond,
    hafter, rfl, -⟩, rfl, -⟩, rfl, -⟩ := htakes
  obtain rfl : c = '[' := by simpa using hc
  obtain ⟨inside, hne, hinside, rfl⟩ := takes_insidePattern hafter
  have hopen : ']' ∉ second := by
    rcases hsecond with ⟨c, hc, rfl, -⟩ | ⟨rfl, -⟩
    · obtain rfl : c = '[' := by simpa using hc
      decide
    · exact List.not_mem_nil
  refine ⟨second ++ inside, lead, rest, hlead, by simp [hne], ?_, by simp⟩
  exact List.not_mem_append hopen hinside

theorem captured?_isSome_iff :
    (headerPattern.captured? line).isSome = true ↔ ∃ inside, IsHeader line inside := by
  constructor
  · intro h
    rw [Pattern.captured?, Option.isSome_map, Text.find?_isSome_iff] at h
    obtain ⟨taken, groups, rest, htakes, rfl⟩ := h
    exact exists_isHeader_of_takes htakes
  · rintro ⟨inside, h⟩
    rw [h.captured?]
    rfl

def packageNames : List (List Char) := ["package".toList, "workspace.package".toList]

theorem isPackageTable_iff_mem : isPackageTable name = true ↔ name ∈ packageNames := by
  rw [isPackageTable_iff, packageNames, List.mem_cons, List.mem_singleton]
  rfl

/-- Where the captured text is not the name, it is too short for the name of a package. -/
theorem capturedName_eq_iff (hname : name ∈ packageNames) :
    capturedName inside = name ↔ bracketName inside = name := by
  have hlong : ∀ name ∈ packageNames, 1 < name.length := by decide
  have hlength := hlong name hname
  rw [capturedName]
  split
  · rename_i hnone
    have hshort : inside.getLast?.toList.length ≤ 1 := by
      cases inside.getLast? <;> simp
    constructor
    · rintro rfl
      omega
    · intro h
      rw [← h, hnone] at hlength
      cases hlength
  · rfl

theorem isPackageTable_capturedName (inside : List Char) :
    isPackageTable (capturedName inside) = isPackageTable (bracketName inside) := by
  rw [Bool.eq_iff_iff, isPackageTable_iff_mem, isPackageTable_iff_mem]
  constructor
  · intro h
    rwa [(capturedName_eq_iff h).mp rfl]
  · intro h
    rwa [(capturedName_eq_iff h).mpr rfl]

/-- Sets the versions of the lines that follow in `table`, with the headers as they are captured. -/
def bumpCaptured (version : List Char) : List Char → List (List Char) → List Char
  | _, [] => []
  | table, line :: rest =>
    match headerPattern.captured? line with
    | some name => line ++ bumpCaptured version name rest
    | none => bumpLine table version line ++ bumpCaptured version table rest

theorem bumpLine_congr {table table' : List Char}
    (h : isPackageTable table = isPackageTable table') (version line : List Char) :
    bumpLine table version line = bumpLine table' version line := by
  rw [bumpLine, bumpLine, h]

theorem IsHeader.tableName? (h : IsHeader line inside) :
    tableName? line = some (bracketName inside) := by
  obtain ⟨lead, rest, hlead, hne, hinside, whole⟩ := h
  exact tableName?_iff.mpr ⟨lead, inside, rest, hlead, hne, hinside, whole, rfl⟩

theorem tableName?_eq_none (h : ∀ inside, ¬ IsHeader line inside) : tableName? line = none := by
  rw [Option.eq_none_iff_forall_not_mem]
  intro name hname
  obtain ⟨lead, inside, rest, hlead, hne, hinside, whole, -⟩ := tableName?_iff.mp hname
  exact h inside ⟨lead, rest, hlead, hne, hinside, whole⟩

/-- Lines depend on the table only by whether it is that of a package. -/
theorem bumpCaptured_eq {table table' : List Char}
    (h : isPackageTable table = isPackageTable table') (version : List Char)
    (lines : List (List Char)) :
      bumpCaptured version table lines = bumpLines version table' lines := by
  induction lines generalizing table table' with
  | nil => rfl
  | cons line rest ih =>
    rw [bumpCaptured, bumpLines]
    by_cases hheader : ∃ inside, IsHeader line inside
    · obtain ⟨inside, hinside⟩ := hheader
      rw [hinside.captured?, hinside.tableName?]
      exact congrArg (line ++ ·) (ih (isPackageTable_capturedName inside))
    · have hnone : headerPattern.captured? line = none := by
        rwa [← Option.not_isSome_iff_eq_none, captured?_isSome_iff]
      rw [hnone, tableName?_eq_none (not_exists.mp hheader)]
      simp only [bumpLine_congr h, ih h]

def versionText : String := "version = \"1.2.3\""

theorem toList_versionText :
    versionText.toList = "version = ".toList ++ '"' :: ("1.2.3".toList ++ ['"']) := by decide

def versionLine (ending : Ending) : String := versionText ++ String.ofList ending.text

theorem ownVersion_versionLine (ending : Ending) : OwnVersion (versionLine ending).toList
    ⟨"version = ".toList, "1.2.3".toList, ending.text⟩ := by
  have hversion : IsVersion "1.2.3".toList := isVersion_iff.mp (by decide)
  refine ⟨⟨[' '], [' '], by decide, by decide, rfl⟩, hversion,
    ⟨[], List.forall_mem_nil _, ending, rfl⟩, ?_⟩
  rw [versionLine, String.toList_append, String.toList_ofList, toList_versionText]
  simp only [List.append_assoc, List.cons_append, List.nil_append]

/-- The line of a version takes another version in the table of a package, whatever that is. -/
theorem OwnVersion.bumpLine_ne {field : Field} (h : OwnVersion line field) {table : List Char}
    (htable : isPackageTable table = true) {version : List Char} (hne : version ≠ field.version) :
    bumpLine table version line ≠ line := by
  have hread := ownVersion?_eq_some_iff.mpr h
  have hbrace : '\x7b' ∉ line := by
    intro hm
    cases hread.symm.trans (ownVersion?_eq_none_of_brace hm)
  rw [bumpLine_package htable, setOwnVersion_field version hread]
  intro hline
  by_cases hpath : isPathLine (field.fill version) = true
  · -- a brace comes with the version, and stays
    rw [setPathVersions, if_pos hpath] at hline
    have hkept := (setInlineVersions_edited version (field.fill version)).mem_of_mem
      (fun _ hold => hold.inert.brace) (isPathLine_iff.mp hpath).1
    exact hbrace (hline ▸ hkept)
  · rw [setPathVersions, if_neg hpath, Field.fill_eq, h.whole] at hline
    have htail := List.cons.inj (List.append_cancel_left hline)
    exact hne (List.append_cancel_right htail.2)

theorem lines_versionLine {first : String} (hfirst : '\n' ∉ first.toList) (ending : Ending) :
    Text.lines (first ++ "\n" ++ versionLine ending).toList =
      [(first ++ "\n").toList, (versionLine ending).toList] := by
  have hsecond : '\n' ∉ (versionLine ending).toList.dropLast := by
    cases ending <;> decide
  have hlines := Text.lines_append hfirst (versionLine ending).toList
  rw [Text.lines_of_dropLast (ownVersion_versionLine ending).ne_nil hsecond] at hlines
  simpa using hlines

theorem tableName?_versionLine (ending : Ending) :
    tableName? (versionLine ending).toList = none := by
  rw [(ownVersion_versionLine ending).whole]
  exact tableName?_keyPart (ownVersion_versionLine ending).key _

theorem bumpLine_versionLine_other {table : List Char} (h : isPackageTable table = false)
    (version : List Char) (ending : Ending) :
    bumpLine table version (versionLine ending).toList = (versionLine ending).toList := by
  have hbrace : '\x7b' ∉ (versionLine ending).toList := by
    cases ending <;> decide
  rw [bumpLine_other h, setPathVersions_of_not_mem hbrace]

/-- The pattern finds the headers, and what it captures tells which of them are those of packages:
the ones whose text in the brackets is the name of one, without a bracket and the blanks. Setting
versions by what it captures is setting versions. So a version line below another line takes
another version exactly if that line is the header of a package, and all else is kept. -/
theorem header_recognition :
    (∀ line, (headerPattern.captured? line).isSome = true ↔ ∃ inside, IsHeader line inside) ∧
    (∀ line inside, IsHeader line inside → ∃ table, headerPattern.captured? line = some table ∧
      ∀ name ∈ packageNames, table = name ↔ bracketName inside = name) ∧
    (∀ contents version : String, String.ofList (bumpCaptured version.toList []
      (Text.lines contents.toList)) = bump contents version) ∧
    ∀ (first version : String) (ending : Ending), '\n' ∉ first.toList → version ≠ "1.2.3" →
      (∀ inside, IsHeader (first ++ "\n").toList inside →
        ∃ second, bump (first ++ "\n" ++ versionLine ending) version = first ++ "\n" ++ second ∧
          (second ≠ versionLine ending ↔ bracketName inside ∈ packageNames)) ∧
      ((∀ inside, ¬ IsHeader (first ++ "\n").toList inside) →
        bump (first ++ "\n" ++ versionLine ending) version =
          bump (first ++ "\n") version ++ versionLine ending) := by
  refine ⟨fun line => captured?_isSome_iff, ?_, ?_, ?_⟩
  · intro line inside h
    exact ⟨_, h.captured?, fun name hname => capturedName_eq_iff hname⟩
  · intro contents version
    rw [bumpCaptured_eq rfl, bump, bumpText]
  · intro first version ending hfirst hversion
    have hlines := lines_versionLine hfirst ending
    have hsecond := tableName?_versionLine ending
    constructor
    · intro inside h
      refine ⟨String.ofList (bumpLine (bracketName inside) version.toList
        (versionLine ending).toList), ?_, ?_⟩
      · rw [bump, bumpText, hlines, bumpLines, h.tableName?]
        simp only [bumpLines, hsecond, List.append_nil, String.ofList_append, String.ofList_toList]
      · rw [← isPackageTable_iff_mem, Ne, ← String.toList_inj, String.toList_ofList]
        cases htable : isPackageTable (bracketName inside) with
        | true =>
          have hne : version.toList ≠ "1.2.3".toList := fun h => hversion (String.toList_inj.mp h)
          simpa using (ownVersion_versionLine ending).bumpLine_ne htable hne
        | false => simp [bumpLine_versionLine_other htable]
    · intro h
      have hname := tableName?_eq_none h
      have hline : Text.lines (first ++ "\n").toList = [(first ++ "\n").toList] := by
        simpa [Text.lines] using Text.lines_append hfirst []
      have hstart : isPackageTable [] = false := by decide
      rw [bump, bumpText, hlines, bump, bumpText, hline]
      simp only [bumpLines, hname, hsecond, bumpLine_versionLine_other hstart, List.append_nil,
        String.ofList_append, String.ofList_toList]

/-- The second bracket counts only right behind the first one, and empty brackets open no table. -/
theorem header_recognition_brackets :
    (IsHeader "\t[[ workspace.package ] #\n".toList "[ workspace.package ".toList ∧
      ∃ second, bump ("\t[[ workspace.package ] #" ++ "\n" ++ versionLine .feed) "\x7b" =
          "\t[[ workspace.package ] #" ++ "\n" ++ second ∧ second ≠ versionLine .feed) ∧
    (IsHeader "[ [package]\n".toList " [package".toList ∧
      bump ("[ [package]" ++ "\n" ++ versionLine .missing) "2.0" =
        "[ [package]" ++ "\n" ++ versionLine .missing) ∧
    (∀ inside, ¬ IsHeader "[]\n".toList inside) ∧
      bump ("[]" ++ "\n" ++ versionLine .missing) "2.0" =
        bump ("[]" ++ "\n") "2.0" ++ versionLine .missing := by
  obtain ⟨-, -, -, hbelow⟩ := header_recognition
  have hdouble : IsHeader "\t[[ workspace.package ] #\n".toList "[ workspace.package ".toList :=
    ⟨['\t'], " #\n".toList, by decide, by decide, by decide, rfl⟩
  have hinner : IsHeader "[ [package]\n".toList " [package".toList :=
    ⟨[], ['\n'], by decide, by decide, by decide, rfl⟩
  have hnone : ∀ inside, ¬ IsHeader "[]\n".toList inside := by
    have hcaptured : headerPattern.captured? "[]\n".toList = none := by decide
    intro inside h
    cases hcaptured.symm.trans h.captured?
  refine ⟨⟨hdouble, ?_⟩, ⟨hinner, ?_⟩, hnone, ?_⟩
  · obtain ⟨second, hbump, hiff⟩ := (hbelow "\t[[ workspace.package ] #" "\x7b" .feed (by decide)
      (by decide)).1 _ hdouble
    exact ⟨second, hbump, hiff.mpr (by decide)⟩
  · obtain ⟨second, hbump, hiff⟩ := (hbelow "[ [package]" "2.0" .missing (by decide)
      (by decide)).1 _ hinner
    have hsame : second = versionLine .missing := by
      by_contra hne
      exact absurd (hiff.mp hne) (by decide)
    rw [hbump, hsame]
  · exact (hbelow "[]" "2.0" .missing (by decide) (by decide)).2 hnone

end ReleaseStamp.Manifest
