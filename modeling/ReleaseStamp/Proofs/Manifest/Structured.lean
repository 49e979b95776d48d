import ReleaseStamp.Proofs.Manifest.BumpLine
import ReleaseStamp.Proofs.Manifest.InlineTable
import ReleaseStamp.Proofs.Text.Lines
import ReleaseStamp.Proofs.Text.Trim

/-!
# Setting a version in a structured manifest

The readers of the text and the syntax agree: setting a version in the text of some rows gives the
text of the rows with the version set. The table that the readers are in is the one that the last
header of the rows before has opened.
-/
namespace ReleaseStamp.Manifest

open Text (isBlank)

def Ending.all : List Ending := [.missing, .feed, .returnFeed, .bareReturn]

theorem Ending.mem_all (ending : Ending) : ending ∈ Ending.all := by
  cases ending <;> decide

theorem isLineEnd_append {trail : List Char} (h : Blanks trail) (ending : Ending) :
    isLineEnd (trail ++ ending.text) = true := by
  have hstop : ∀ c ∈ ending.text.head?, isBlank c = false := by
    cases ending <;> simp [Ending.text, isBlank]
  rw [isLineEnd, h.dropWhile_append hstop]
  cases ending <;> decide

theorem isLineEnd_iff {rest : List Char} :
    isLineEnd rest = true ↔
      ∃ trail, Blanks trail ∧ ∃ ending : Ending, rest = trail ++ ending.text := by
  constructor
  · intro h
    have whole := List.takeWhile_append_dropWhile (p := isBlank) (l := rest)
    refine ⟨rest.takeWhile isBlank, blanks_takeWhile rest, ?_⟩
    simp only [isLineEnd, List.contains_iff_mem, List.mem_cons, List.not_mem_nil, or_false] at h
    rcases h with h | h | h | h <;> rw [h] at whole
    · exact ⟨.missing, whole.symm⟩
    · exact ⟨.feed, whole.symm⟩
    · exact ⟨.bareReturn, whole.symm⟩
    · exact ⟨.returnFeed, whole.symm⟩
  · rintro ⟨trail, htrail, ending, rfl⟩
    exact isLineEnd_append htrail ending

/-- A version line, read with the blanks and the line end behind its version. -/
theorem ownVersion?_ending {key old trail : List Char} (hkey : KeyPart versionKey key)
    (hold : IsVersion old) (htrail : Blanks trail) (ending : Ending) :
    ownVersion? (key ++ '"' :: (old ++ '"' :: (trail ++ ending.text))) =
      some ⟨key, old, trail ++ ending.text⟩ :=
  ownVersion?_iff.mpr ⟨hkey, hold, isLineEnd_append htrail ending, by rw [Field.fill_eq]⟩

theorem Ending.noMarks (ending : Ending) : NoMarks ending.text := by
  cases ending <;> decide

theorem bracketName_of_head {inside : List Char} (h : ∀ c ∈ inside.head?, c ≠ '[') :
    bracketName inside = Text.trimBy isBlank inside := by
  unfold bracketName
  split
  · exact absurd rfl (h '[' rfl)
  · rfl

/-- A header in single brackets, with blanks around a name that may have blanks inside. -/
theorem tableName?_single {lead before name after : List Char} (hlead : Blanks lead)
    (hbefore : Blanks before) (hne : name ≠ []) (hfirst : ∀ c ∈ name.head?, isBlank c = false)
    (hlast : ∀ c ∈ name.getLast?, isBlank c = false) (hopen : '[' ∉ name) (hclosed : ']' ∉ name)
    (hafter : Blanks after) (rest : List Char) :
    tableName? (lead ++ '[' :: (before ++ name ++ after ++ ']' :: rest)) = some name := by
  refine tableName?_iff.mpr ⟨lead, before ++ name ++ after, rest, hlead, ?_, ?_, rfl, ?_⟩
  · simp [hne]
  · simp [hclosed, hbefore.not_mem (c := ']') (by decide), hafter.not_mem (c := ']') (by decide)]
  · rw [bracketName_of_head, Text.trimBy_padded hbefore hafter ⟨hfirst, hlast⟩]
    rintro c hc rfl
    have hinside : '[' ∉ before ++ name ++ after := by
      simp [hopen, hbefore.not_mem (c := '[') (by decide), hafter.not_mem (c := '[') (by decide)]
    exact hinside (List.mem_of_mem_head? hc)

theorem tableName?_header {lead before name after rest : List Char} {double : Bool}
    (h : (Line.header lead double before name after rest).Valid) (tail : List Char) :
    tableName? ((Line.header lead double before name after rest).render ++ tail) = some name := by
  obtain ⟨hlead, hbefore, ⟨hne, hname⟩, hafter, _⟩ := h
  have hfirst : ∀ c ∈ name.head?, isBlank c = false := fun c hc =>
    (hname c (List.mem_of_mem_head? hc)).2
  have hlast : ∀ c ∈ name.getLast?, isBlank c = false := fun c hc =>
    (hname c (List.mem_of_getLast? hc)).2
  have hopen : '[' ∉ name := fun hm => (hname _ hm).1 (by decide)
  have hclosed : ']' ∉ name := fun hm => (hname _ hm).1 (by decide)
  cases double with
  | false =>
    simpa [Line.render] using
      tableName?_single hlead hbefore hne hfirst hlast hopen hclosed hafter (rest ++ tail)
  | true =>
    refine tableName?_iff.mpr ⟨lead, '[' :: (before ++ name ++ after), ']' :: (rest ++ tail), hlead,
      List.cons_ne_nil _ _, ?_, ?_, ?_⟩
    · simp [hclosed, hbefore.not_mem (c := ']') (by decide), hafter.not_mem (c := ']') (by decide)]
    · simp [Line.render]
    · exact (Text.trimBy_padded hbefore hafter ⟨hfirst, hlast⟩).symm

theorem tableName?_of_head {line : List Char} (h : ∀ c ∈ (line.dropWhile isBlank).head?, c ≠ '[') :
    tableName? line = none := by
  unfold tableName?
  split
  · rename_i hdrop
    rw [hdrop] at h
    exact absurd rfl (h '[' rfl)
  · rfl

theorem tableName?_other {line : Line} (h : line.Valid) (hopens : line.opens? = none)
    (ending : Ending) : tableName? (line.render ++ ending.text) = none := by
  cases line with
  | header => cases hopens
  | version gap pad string trail =>
    obtain ⟨hgap, hpad, _, _⟩ := h
    simpa [Line.render] using tableName?_keyPart ⟨gap, pad, hgap, hpad, rfl⟩
      ('"' :: (string ++ '"' :: (trail ++ ending.text)))
  | plain text =>
    apply tableName?_of_head
    rw [Line.render, List.dropWhile_append]
    split
    · cases ending <;> decide
    · rename_i hne
      rw [List.isEmpty_iff] at hne
      rw [List.head?_append_of_ne_nil _ hne]
      exact h.1
  | table lead key gap pad entries trail =>
    obtain ⟨hlead, hkey, _, _, _, _⟩ := h
    apply tableName?_of_head
    simp only [Line.render, List.append_assoc]
    rw [hlead.dropWhile_append (hkey.head_not_blank _)]
    obtain ⟨hne, hchars⟩ := hkey
    obtain ⟨d, key, rfl⟩ := List.exists_cons_of_ne_nil hne
    rintro c hc rfl
    cases hc
    exact absurd (hchars '[' List.mem_cons_self) (by decide)

theorem bumpLine_eq_self {table version line : List Char}
    (hpath : setPathVersions version line = line)
    (hread : isPackageTable table = true → ownVersion? line = none) :
    bumpLine table version line = line := by
  cases htable : isPackageTable table with
  | false => rw [bumpLine_other htable, hpath]
  | true => rw [bumpLine_package htable, setOwnVersion_none version (hread htable), hpath]

theorem bumpLine_version {table version gap pad string trail : List Char}
    (h : (Line.version gap pad string trail).Valid) (hversion : '\x7b' ∉ version)
    (ending : Ending) :
    bumpLine table version ((Line.version gap pad string trail).render ++ ending.text) =
      (if isPackageTable table = true ∧ IsVersion string then Line.version gap pad version trail
        else Line.version gap pad string trail).render ++ ending.text := by
  obtain ⟨hgap, hpad, ⟨hquote, _⟩, htrail⟩ := h
  have hpart : KeyPart versionKey (versionKey ++ gap ++ '=' :: pad) := ⟨gap, pad, hgap, hpad, rfl⟩
  have hrender : (Line.version gap pad string trail).render ++ ending.text =
      (versionKey ++ gap ++ '=' :: pad) ++ '"' :: (string ++ '"' :: (trail ++ ending.text)) := by
    simp [Line.render]
  split
  · rename_i hset
    obtain ⟨htable, hstring⟩ := hset
    have hread := ownVersion?_ending hpart hstring htrail ending
    rw [hrender, bumpLine_package htable, setOwnVersion_field version hread,
      setPathVersions_fill hread hversion]
    simp [Line.render]
  · rename_i hkeep
    apply bumpLine_eq_self
    · -- Behind the first quote there is only one more.
      have hlead : NoMarks ((versionKey ++ gap ++ '=' :: pad) ++ ['"']) :=
        noMarks_append.mpr ⟨hpart.noMarks noMarks_versionKey, by decide⟩
      have hcount : (string ++ '"' :: (trail ++ ending.text)).count '"' < 2 := by
        have hend : '"' ∉ ending.text := by
          cases ending <;> decide
        have hnone : (trail ++ ending.text).count '"' = 0 :=
          List.count_eq_zero.mpr (by simp [hend, htrail.not_mem (c := '"') (by decide)])
        rw [List.count_append, List.count_eq_zero.mpr hquote, List.count_cons_self, hnone]
        decide
      have hline := setInlineVersions_append version hlead (string ++ '"' :: (trail ++ ending.text))
      rw [setInlineVersions_of_count version hcount] at hline
      rw [hrender, setPathVersions]
      split
      · simpa using hline
      · rfl
    · intro htable
      rw [hrender]
      exact ownVersion?_eq_none hpart hquote fun hstring => hkeep ⟨htable, hstring⟩

theorem bumpLine_plain {table version text : List Char} (h : (Line.plain text).Valid)
    (ending : Ending) (hother : ¬ IsVersionLine Ending.all (text ++ ending.text)) :
    bumpLine table version (text ++ ending.text) = text ++ ending.text := by
  obtain ⟨_, hbrace, _⟩ := h
  apply bumpLine_eq_self
  · have hend : '\x7b' ∉ ending.text := by
      cases ending <;> decide
    exact setPathVersions_of_not_mem (by simp [hbrace, hend]) version
  · intro _
    by_contra hne
    obtain ⟨⟨before, string, after⟩, hread⟩ := Option.ne_none_iff_exists'.mp hne
    obtain ⟨⟨gap, pad, hgap, hpad, rfl⟩, hstring, hend, whole⟩ := ownVersion?_iff.mp hread
    obtain ⟨trail, htrail, ending', rfl⟩ := isLineEnd_iff.mp hend
    apply hother
    refine ⟨gap, pad, string, trail, ⟨hgap, hpad, ⟨hstring.inert.quote, hstring.inert.newline⟩,
      htrail⟩, ending', Ending.mem_all ending', ?_⟩
    rw [whole]
    simp [Row.render, Line.render]

theorem bumpLine_table {table version lead key gap pad trail : List Char} {entries : List Entry}
    (h : (Line.table lead key gap pad entries trail).Valid) (ending : Ending) :
    bumpLine table version ((Line.table lead key gap pad entries trail).render ++ ending.text) =
      (if ∃ entry ∈ entries, entry.key = pathKey then
          Line.table lead key gap pad (entries.map (Entry.stamp version)) trail
        else Line.table lead key gap pad entries trail).render ++ ending.text := by
  obtain ⟨hlead, hkey, hgap, hpad, hentries, htrail⟩ := h
  have hstart : NoMarks (lead ++ key ++ gap ++ '=' :: pad) := by
    simp [hlead.noMarks, hkey.noMarks, hgap.noMarks, hpad.noMarks,
      show opensKey '=' = false from rfl]
  have hend : NoMarks (trail ++ ending.text) := by
    simp [htrail.noMarks, ending.noMarks]
  have hrender : ∀ others, (Line.table lead key gap pad others trail).render ++ ending.text =
      (lead ++ key ++ gap ++ '=' :: pad) ++ '\x7b' :: (Text.joinBy ',' (others.map Entry.render) ++
        '\x7d' :: (trail ++ ending.text)) := by
    intro others
    simp [Line.render]
  have hbrace : '\x7b' ∈ (Line.table lead key gap pad entries trail).render ++ ending.text := by
    simp [hrender]
  have hown := ownVersion?_eq_none_of_brace hbrace
  have hpath :
    isPathLine ((Line.table lead key gap pad entries trail).render ++ ending.text) = true ↔
      ∃ entry ∈ entries, entry.key = pathKey := by
    rw [isPathLine_iff, hrender, hasPathKey_append hstart, hasPathKey_table hentries hend]
    simp
  rw [bumpLine_inline hown, setPathVersions]
  by_cases hkeyed : ∃ entry ∈ entries, entry.key = pathKey
  · rw [if_pos (hpath.mpr hkeyed), if_pos hkeyed, hrender, hrender,
      setInlineVersions_append version hstart, setInlineVersions_table version hentries hend]
  · rw [if_neg (fun hline => hkeyed (hpath.mp hline)), if_neg hkeyed]

theorem inPackage_append_header {row : Row} {name : List Char} (h : row.line.opens? = some name)
    (before : List Row) : InPackage (before ++ [row]) ↔ isPackageTable name = true := by
  have hlast : ((before ++ [row]).filterMap (·.line.opens?)).getLast? = some name := by
    simp [List.filterMap_append, h]
  have hname : ∀ text : String, name = text.toList ↔ String.ofList name = text := by
    intro text
    constructor
    · rintro rfl
      exact String.ofList_toList
    · rintro rfl
      exact String.toList_ofList.symm
  rw [InPackage, hlast, isPackageTable]
  simp only [List.mem_cons, List.not_mem_nil, or_false, Option.some.injEq, hname,
    List.contains_iff_mem]

theorem inPackage_append_other {row : Row} (h : row.line.opens? = none) (before : List Row) :
    InPackage (before ++ [row]) ↔ InPackage before := by
  simp [InPackage, List.filterMap_append, h]

theorem bumpLine_row {row : Row} {table version : List Char} {before : List Row}
    (h : row.Valid Ending.all) (hopens : row.line.opens? = none) (hversion : '\x7b' ∉ version)
    (htable : isPackageTable table = true ↔ InPackage before) :
    bumpLine table version row.render =
      (Row.mk (row.line.stamp version before) row.ending).render := by
  obtain ⟨line, ending⟩ := row
  obtain ⟨hline, hplain⟩ := h
  cases line with
  | header => cases hopens
  | version gap pad string trail =>
    rw [Row.render, bumpLine_version hline hversion, Row.render, Line.stamp]
    simp only [htable]
  | plain text => exact bumpLine_plain hline ending (hplain text rfl)
  | table lead key gap pad entries trail => exact bumpLine_table hline ending

/-- One row: what is written is the row with the version set, and the reader is in the table of the
last header again. -/
theorem bumpLines_row {row : Row} {table version : List Char} {before : List Row}
    (h : row.Valid Ending.all) (hversion : '\x7b' ∉ version)
    (htable : isPackageTable table = true ↔ InPackage before) :
    ∃ table', (isPackageTable table' = true ↔ InPackage (before ++ [row])) ∧
      ∀ ls, bumpLines version table (row.render :: ls) =
        (Row.mk (row.line.stamp version before) row.ending).render ++
          bumpLines version table' ls := by
  cases hopens : row.line.opens? with
  | none =>
    refine ⟨table, htable.trans (inPackage_append_other hopens before).symm, ?_⟩
    intro ls
    have hname : tableName? row.render = none := tableName?_other h.1 hopens row.ending
    simp only [bumpLines, hname, bumpLine_row h hopens hversion htable]
  | some name =>
    refine ⟨name, (inPackage_append_header hopens before).symm, ?_⟩
    intro ls
    obtain ⟨line, ending⟩ := row
    cases line with
    | header lead double start text after rest =>
      cases hopens
      have hname := tableName?_header h.1 ending.text
      simp only [Row.render, Line.stamp, bumpLines, hname]
    | version => cases hopens
    | plain => cases hopens
    | table => cases hopens

theorem IsBareKey.newline_not_mem {key : List Char} (h : IsBareKey key) : '\n' ∉ key := by
  intro hm
  exact absurd (h.2 _ hm) (by decide)

theorem IsPlainString.newline_not_mem {string : List Char} (h : IsPlainString string) :
    '\n' ∉ string := fun hm => h _ hm (by decide)

theorem newline_not_mem_joinBy {parts : List (List Char)} (h : ∀ part ∈ parts, '\n' ∉ part) :
    '\n' ∉ Text.joinBy ',' parts := by
  intro hm
  rcases Text.mem_joinBy hm with hmark | ⟨part, hpart, hc⟩
  · cases hmark
  · exact h part hpart hc

theorem Item.Valid.newline_not_mem {item : Item} (h : item.Valid) : '\n' ∉ item.render := by
  obtain ⟨hlead, hstring, htrail⟩ := h
  simp [Item.render, hlead.not_mem (c := '\n') (by decide), hstring.newline_not_mem,
    htrail.not_mem (c := '\n') (by decide)]

theorem Value.Valid.newline_not_mem {value : Value} (h : value.Valid) : '\n' ∉ value.render := by
  cases value with
  | text string => simp [Value.render, IsPlainString.newline_not_mem h]
  | texts items =>
    have hitems : '\n' ∉ Text.joinBy ',' (items.map Item.render) := by
      apply newline_not_mem_joinBy
      intro part hpart
      obtain ⟨item, hitem, rfl⟩ := List.mem_map.mp hpart
      exact Item.Valid.newline_not_mem (h item hitem)
    simp [Value.render, hitems]
  | scalar word => exact fun hm => h.2.2 _ hm (by decide)

theorem Entry.Valid.newline_not_mem {entry : Entry} (h : entry.Valid) : '\n' ∉ entry.render := by
  simp [Entry.render, h.lead.not_mem (c := '\n') (by decide), h.key.newline_not_mem,
    h.gap.not_mem (c := '\n') (by decide), h.pad.not_mem (c := '\n') (by decide),
    h.value.newline_not_mem, h.trail.not_mem (c := '\n') (by decide)]

theorem Line.Valid.newline_not_mem {line : Line} (h : line.Valid) : '\n' ∉ line.render := by
  have hblank : isBlank '\n' = false := rfl
  cases line with
  | header lead double before name after rest =>
    obtain ⟨hlead, hbefore, ⟨_, hname⟩, hafter, hrest⟩ := h
    have hm : '\n' ∉ name := fun hm => (hname _ hm).1 (by decide)
    cases double <;> simp [Line.render, hlead.not_mem hblank, hbefore.not_mem hblank, hm,
      hafter.not_mem hblank, hrest]
  | version gap pad string trail =>
    obtain ⟨hgap, hpad, ⟨_, hstring⟩, htrail⟩ := h
    simp [Line.render, versionKey, hgap.not_mem hblank, hpad.not_mem hblank, hstring,
      htrail.not_mem hblank]
  | plain text => exact h.2.2
  | table lead key gap pad entries trail =>
    obtain ⟨hlead, hkey, hgap, hpad, hentries, htrail⟩ := h
    have hm : '\n' ∉ Text.joinBy ',' (entries.map Entry.render) := by
      apply newline_not_mem_joinBy
      intro part hpart
      obtain ⟨entry, hentry, rfl⟩ := List.mem_map.mp hpart
      exact (hentries entry hentry).newline_not_mem
    simp [Line.render, hlead.not_mem hblank, hkey.newline_not_mem, hgap.not_mem hblank,
      hpad.not_mem hblank, hm, htrail.not_mem hblank]

theorem lines_row {row : Row} (h : row.line.Valid)
    (hending : row.ending = .feed ∨ row.ending = .returnFeed) (rest : List Char) :
    Text.lines (row.render ++ rest) = row.render :: Text.lines rest := by
  obtain ⟨line, ending⟩ := row
  have hline := Line.Valid.newline_not_mem h
  rcases hending with rfl | rfl
  · simpa [Row.render, Ending.text] using Text.lines_append hline rest
  · have hreturn : '\n' ∉ line.render ++ ['\r'] := by
      simp [hline]
    simpa [Row.render, Ending.text] using Text.lines_append hreturn rest

/-- Only an empty last row is no line. -/
theorem lines_last_row {row : Row} (h : row.line.Valid) (hne : row.render ≠ []) :
    Text.lines row.render = [row.render] := by
  have hfeed := lines_row h
  obtain ⟨line, ending⟩ := row
  have hline := Line.Valid.newline_not_mem h
  cases ending with
  | missing => exact Text.lines_of_not_mem hne (by simp [Row.render, Ending.text, hline])
  | bareReturn => exact Text.lines_of_not_mem hne (by simp [Row.render, Ending.text, hline])
  | feed => simpa [Text.lines] using hfeed (Or.inl rfl) []
  | returnFeed => simpa [Text.lines] using hfeed (Or.inr rfl) []

theorem bumpLines_render {rows before : List Row} {table version : List Char}
    (h : Structured Ending.all rows) (hversion : '\x7b' ∉ version)
    (htable : isPackageTable table = true ↔ InPackage before) :
    bumpLines version table (Text.lines (render rows)) =
      render (stampRows version before rows) := by
  induction h generalizing before table with
  | nil => rfl
  | @last row hrow _ =>
    obtain ⟨table', _, hstep⟩ := bumpLines_row hrow hversion htable
    have hstep' := hstep []
    simp only [render, stampRows, List.flatMap_cons, List.flatMap_nil, List.append_nil]
    by_cases hne : row.render = []
    · have hempty : bumpLines version table [[]] = [] := by
        simp [bumpLines, tableName?, bumpLine, setOwnVersion, ownVersion?, splitKey?, isPathLine,
          versionKey]
      rw [hne, hempty] at hstep'
      rw [hne, Text.lines, bumpLines]
      simpa [bumpLines] using hstep'
    · rw [lines_last_row hrow.1 hne, hstep', bumpLines, List.append_nil]
  | @cons row rest hrow hending _ ih =>
    obtain ⟨table', htable', hstep⟩ := bumpLines_row hrow hversion htable
    have hrest := ih htable'
    simp only [render] at hrest
    simp only [render, stampRows, List.flatMap_cons]
    rw [lines_row hrow.1 hending, hstep, hrest]

/-- Setting a version in a structured text changes these values and nothing else: the versions of
version lines whose nearest header is that of a package, and the versions of inline tables that
have a path. -/
theorem bump_render {rows : List Row} (h : Structured Ending.all rows) {version : String}
    (hversion : '\x7b' ∉ version.toList) :
    bump (String.ofList (render rows)) version =
      String.ofList (render (stampRows version.toList [] rows)) := by
  have hstart : isPackageTable [] = true ↔ InPackage [] := by decide
  rw [bump, bumpText, String.toList_ofList, bumpLines_render h hversion hstart]

theorem bump_render_workspace :
    let path : Entry := ⟨[' '], pathKey, [' '], [' '], .text "a".toList, []⟩
    let release : Entry := ⟨[' '], versionKey, [' '], [' '], .text "1.2.3".toList, [' ']⟩
    let rows : List Row := [
      ⟨.header [] false [] "workspace.package".toList [] [], .feed⟩,
      ⟨.version [' '] [' '] "1.2.3".toList [], .returnFeed⟩,
      ⟨.plain "# members".toList, .feed⟩,
      ⟨.table [] "a".toList [' '] [' '] [path, release] [], .bareReturn⟩]
    (Structured Ending.all rows ∧ '\x7b' ∉ "2.0.0".toList) ∧
      bump (String.ofList (render rows)) "2.0.0" =
        String.ofList (render (stampRows "2.0.0".toList [] rows)) := by
  intro path release rows
  have hcomment : ¬ IsVersionLine Ending.all "# members\n".toList := by
    rintro ⟨gap, pad, string, trail, _, ending, _, whole⟩
    cases whole
  have hrows : Structured Ending.all rows := by
    refine .cons ⟨by decide, ?_⟩ (Or.inl rfl) (.cons ⟨by decide, ?_⟩ (Or.inr rfl)
      (.cons ⟨by decide, ?_⟩ (Or.inl rfl) (.last ⟨by decide, ?_⟩ (by decide))))
    · rintro text h
      cases h
    · rintro text h
      cases h
    · rintro text h
      exact hcomment
    · rintro text h
      cases h
  have hversion : '\x7b' ∉ "2.0.0".toList := by decide
  exact ⟨⟨hrows, hversion⟩, bump_render hrows hversion⟩

/-- With line feeds as the only endings, a version line of an unended text that a carriage return
ends would be a plain line, but its version is set. -/
theorem bump_render_carriageReturn :
    ¬ ∀ (rows : List Row) (version : String), Structured [.missing, .feed, .returnFeed] rows →
      '\x7b' ∉ version.toList → bump (String.ofList (render rows)) version =
        String.ofList (render (stampRows version.toList [] rows)) := by
  intro h
  have hplain : ¬ IsVersionLine [.missing, .feed, .returnFeed] "version = \"1.0.0\"\r".toList := by
    rintro ⟨gap, pad, string, trail, ⟨hgap, hpad, ⟨hquote, _⟩, htrail⟩, ending, hending, whole⟩
    have hpart : KeyPart versionKey (versionKey ++ gap ++ '=' :: pad) := ⟨gap, pad, hgap, hpad, rfl⟩
    have hline : "version = ".toList ++ '"' :: ("1.0.0".toList ++ '"' :: ['\r']) =
        (versionKey ++ gap ++ '=' :: pad) ++ '"' :: (string ++ '"' :: (trail ++ ending.text)) := by
      simpa [Row.render, Line.render] using whole
    have hfree : '"' ∉ versionKey ++ gap ++ '=' :: pad :=
      hpart.not_mem (by decide) (by decide) (by decide)
    obtain ⟨_, hvalue⟩ := split_at_first (by decide) hfree hline
    obtain ⟨_, hend⟩ := split_at_first (by decide) hquote hvalue
    cases trail with
    | nil => revert hend hending; cases ending <;> decide
    | cons c trail =>
      obtain ⟨rfl, _⟩ := List.cons.inj hend
      exact absurd (htrail _ List.mem_cons_self) (by decide)
  have hrows : Structured [.missing, .feed, .returnFeed]
      [⟨.header [] false [] "package".toList [] [], .feed⟩,
        ⟨.plain "version = \"1.0.0\"\r".toList, .missing⟩] := by
    refine .cons ⟨by decide, ?_⟩ (Or.inl rfl) (.last ⟨by decide, ?_⟩ (by decide))
    · rintro text h
      cases h
    · rintro text h
      exact hplain
  have hbump := h _ "2.0.0" hrows (by decide)
  revert hbump
  decide +kernel

end ReleaseStamp.Manifest
