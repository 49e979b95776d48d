import ReleaseStamp.Proofs.Manifest.Apart
import ReleaseStamp.Proofs.Manifest.Place

/-!
# The version of a package

The manifest format lets a version line be indented and end with a comment, and lets blanks stand
around the point of a header. Of these lines only those are set that do none of it.
-/
namespace ReleaseStamp.Manifest

open Text (isBlank)

def packageWord : List Char := ['p', 'a', 'c', 'k', 'a', 'g', 'e']

def workspaceWord : List Char := ['w', 'o', 'r', 'k', 's', 'p', 'a', 'c', 'e']

/-- The tables whose version is that of a project. Blanks may stand around the point. -/
inductive PackageTable where
  | package
  | workspace (gap pad : List Char)
deriving DecidableEq, Repr

def PackageTable.name : PackageTable → List Char
  | package => packageWord
  | workspace gap pad => workspaceWord ++ (gap ++ '.' :: (pad ++ packageWord))

def PackageTable.Valid : PackageTable → Prop
  | package => True
  | workspace gap pad => Blanks gap ∧ Blanks pad

def PackageTable.Joined : PackageTable → Prop
  | package => True
  | workspace gap pad => gap = [] ∧ pad = []

structure PackageHeader where
  lead : List Char
  before : List Char
  table : PackageTable
  after : List Char
  rest : List Char
deriving DecidableEq, Repr

def PackageHeader.render (header : PackageHeader) : List Char :=
  header.lead ++ '[' :: (header.before ++ header.table.name ++ header.after ++ ']' :: header.rest)

structure PackageHeader.Valid (header : PackageHeader) : Prop where
  lead : Blanks header.lead
  before : Blanks header.before
  table : header.table.Valid
  after : Blanks header.after
  rest : '\n' ∉ header.rest

structure PackageLine where
  lead : List Char
  gap : List Char
  pad : List Char
  string : List Char
  trail : List Char
  comment : Option (List Char)
deriving DecidableEq, Repr

def PackageLine.body (line : PackageLine) : Line :=
  .version line.gap line.pad line.string line.trail

def PackageLine.render (line : PackageLine) : List Char :=
  line.lead ++ line.body.render ++ commentText line.comment

structure PackageLine.Valid (line : PackageLine) : Prop where
  lead : Blanks line.lead
  gap : Blanks line.gap
  pad : Blanks line.pad
  string : IsVersion line.string
  trail : Blanks line.trail
  comment : ∀ text ∈ line.comment, '\n' ∉ text

/-- The line begins with its key and has no comment. -/
def PackageLine.Standalone (line : PackageLine) : Prop := line.lead = [] ∧ line.comment = none

def IsSectionLine (text : List Char) : Prop :=
  '\n' ∉ text ∧ ∀ c ∈ (text.dropWhile isBlank).head?, c ≠ '['

/-- A manifest with a package in it. Before and after the section of the package there may be
anything, and before the version any lines that are no headers. -/
structure PackageManifest where
  before : List Char
  header : PackageHeader
  fields : List (List Char)
  line : PackageLine
  ending : Ending
  after : List Char
deriving DecidableEq, Repr

def PackageManifest.front (manifest : PackageManifest) : List Char :=
  manifest.before ++ (manifest.header.render ++ '\n' :: manifest.fields.flatMap (· ++ ['\n']))

def PackageManifest.render (manifest : PackageManifest) : List Char :=
  manifest.front ++ (manifest.line.render ++ manifest.ending.text ++ manifest.after)

structure PackageManifest.Valid (manifest : PackageManifest) : Prop where
  before : Ended manifest.before
  header : manifest.header.Valid
  fields : ∀ field ∈ manifest.fields, IsSectionLine field
  line : manifest.line.Valid
  ending : manifest.ending = .feed ∨ manifest.ending = .returnFeed ∨ manifest.after = []

/-- Is the version line one of those that are set? -/
def PackageManifest.IsRead (manifest : PackageManifest) : Prop :=
  manifest.header.table.Joined ∧ manifest.line.Standalone

instance : (table : PackageTable) → Decidable table.Valid
  | .package => inferInstanceAs (Decidable True)
  | .workspace _ _ => inferInstanceAs (Decidable (_ ∧ _))

instance : (table : PackageTable) → Decidable table.Joined
  | .package => inferInstanceAs (Decidable True)
  | .workspace _ _ => inferInstanceAs (Decidable (_ ∧ _))

instance (line : PackageLine) : Decidable line.Standalone := inferInstanceAs (Decidable (_ ∧ _))

instance (manifest : PackageManifest) : Decidable manifest.IsRead :=
  inferInstanceAs (Decidable (_ ∧ _))

instance (text : List Char) : Decidable (IsSectionLine text) :=
  inferInstanceAs (Decidable (_ ∧ ∀ c ∈ _, c ≠ '['))

section Table

variable {table : PackageTable}

theorem isPackageTable_iff {name : List Char} : isPackageTable name = true ↔
    name = packageWord ∨ name = workspaceWord ++ '.' :: packageWord := by
  have hname : ∀ text : String, String.ofList name = text ↔ name = text.toList := by
    intro text
    constructor
    · rintro rfl
      exact String.toList_ofList.symm
    · rintro rfl
      exact String.ofList_toList
  rw [isPackageTable, List.contains_iff_mem, List.mem_cons, List.mem_singleton, hname, hname]
  rfl

theorem PackageTable.name_ne_nil (table : PackageTable) : table.name ≠ [] := by
  cases table <;> simp [name, packageWord, workspaceWord]

theorem PackageTable.head_name (table : PackageTable) :
    ∀ c ∈ table.name.head?, isBlank c = false := by
  cases table with
  | package => decide
  | workspace gap pad =>
    intro c hc
    cases hc
    decide

theorem PackageTable.last_name (table : PackageTable) :
    ∀ c ∈ table.name.getLast?, isBlank c = false := by
  cases table with
  | package => decide
  | workspace gap pad =>
    have hlast : (workspace gap pad).name.getLast? = some 'e' := by
      simp [name, packageWord, List.getLast?_cons]
    rw [hlast]
    decide

theorem PackageTable.not_mem_name (h : table.Valid) {c : Char} (hblank : isBlank c = false)
    (hpoint : c ≠ '.') (hpackage : c ∉ packageWord) (hworkspace : c ∉ workspaceWord) :
    c ∉ table.name := by
  cases table with
  | package => exact hpackage
  | workspace gap pad =>
    simp [name, hworkspace, h.1.not_mem hblank, hpoint, h.2.not_mem hblank, hpackage]

/-- Blanks around the point hide the name. -/
theorem PackageTable.isPackageTable_name :
    isPackageTable table.name = true ↔ table.Joined := by
  rw [isPackageTable_iff]
  cases table with
  | package => simp [name, Joined]
  | workspace gap pad =>
    constructor
    · rintro (h | h)
      · cases h
      · have hlength := congrArg List.length (List.append_cancel_left h)
        simp only [List.length_append, List.length_cons] at hlength
        exact ⟨List.eq_nil_of_length_eq_zero (by omega), List.eq_nil_of_length_eq_zero (by omega)⟩
    · rintro ⟨rfl, rfl⟩
      exact .inr rfl

end Table

theorem PackageHeader.tableName?_render {header : PackageHeader} (h : header.Valid) :
    tableName? (header.render ++ ['\n']) = some header.table.name := by
  have hopen : '[' ∉ header.table.name :=
    PackageTable.not_mem_name h.table (by decide) (by decide) (by decide) (by decide)
  have hclosed : ']' ∉ header.table.name :=
    PackageTable.not_mem_name h.table (by decide) (by decide) (by decide) (by decide)
  simpa [render] using tableName?_single h.lead h.before header.table.name_ne_nil
    header.table.head_name header.table.last_name hopen hclosed h.after (header.rest ++ ['\n'])

theorem PackageHeader.newline_not_mem {header : PackageHeader} (h : header.Valid) :
    '\n' ∉ header.render := by
  have hblank : isBlank '\n' = false := by decide
  have hname : '\n' ∉ header.table.name :=
    PackageTable.not_mem_name h.table hblank (by decide) (by decide) (by decide)
  simp [render, h.lead.not_mem hblank, h.before.not_mem hblank, hname, h.after.not_mem hblank,
    h.rest]

section Front

variable {fields : List (List Char)}

theorem IsSectionLine.tableName? {text : List Char} (h : IsSectionLine text) :
    tableName? (text ++ ['\n']) = none := by
  apply tableName?_of_head
  rw [List.dropWhile_append]
  split
  · decide
  · rename_i hne
    rw [List.isEmpty_iff] at hne
    rw [List.head?_append_of_ne_nil _ hne]
    exact h.2

theorem lines_fields (h : ∀ field ∈ fields, IsSectionLine field) :
    Text.lines (fields.flatMap (· ++ ['\n'])) = fields.map (· ++ ['\n']) := by
  induction fields with
  | nil => rfl
  | cons field fields ih =>
    rw [List.forall_mem_cons] at h
    have hline := Text.lines_append h.1.1 (fields.flatMap (· ++ ['\n']))
    rw [ih h.2] at hline
    simpa using hline

theorem ended_flatMap (fields : List (List Char)) (text : List Char) :
    Ended (text ++ '\n' :: fields.flatMap (· ++ ['\n'])) := by
  induction fields generalizing text with
  | nil => simp [Ended]
  | cons field fields ih => simpa using ih (text ++ '\n' :: field)

theorem PackageManifest.ended_front (manifest : PackageManifest) : Ended manifest.front := by
  rw [front, ← List.append_assoc]
  exact ended_flatMap manifest.fields _

/-- The version line stands in the table of the package. -/
theorem PackageManifest.tableAfter_front {manifest : PackageManifest} (h : manifest.Valid) :
    tableAfter [] (Text.lines manifest.front) = manifest.header.table.name := by
  have hfields : ∀ line ∈ manifest.fields.map (· ++ ['\n']), tableName? line = none := by
    intro line hline
    obtain ⟨field, hfield, rfl⟩ := List.mem_map.mp hline
    exact (h.fields field hfield).tableName?
  rw [front, lines_append_of_ended h.before,
    Text.lines_append (PackageHeader.newline_not_mem h.header), lines_fields h.fields,
    tableAfter_append, tableAfter, PackageHeader.tableName?_render h.header, Option.getD_some,
    tableAfter_of_none hfields]

end Front

section Line

variable {line : PackageLine} {version : List Char}

theorem PackageLine.body_valid (h : line.Valid) : line.body.Valid :=
  ⟨h.gap, h.pad, ⟨h.string.inert.quote, h.string.inert.newline⟩, h.trail⟩

theorem PackageLine.newline_not_mem (h : line.Valid) : '\n' ∉ line.render := by
  have hlead := h.lead.not_mem (c := '\n') (by decide)
  have hbody := Line.Valid.newline_not_mem (PackageLine.body_valid h)
  have hcomment : '\n' ∉ commentText line.comment := by
    cases htext : line.comment with
    | some text => simp [commentText, h.comment text htext]
    | none => exact List.not_mem_nil
  simp [render, hlead, hbody, hcomment]

theorem PackageLine.render_ne_nil (line : PackageLine) : line.render ≠ [] := by
  simp [render, body, Line.render, versionKey]

theorem PackageLine.tableName?_render (h : line.Valid) (ending : Ending) :
    tableName? (line.render ++ ending.text) = none := by
  apply tableName?_of_head
  have hstop : ∀ rest, ∀ c ∈ (line.body.render ++ rest).head?, isBlank c = false := by
    intro rest c hc
    cases hc
    decide
  rw [render, List.append_assoc, List.append_assoc, h.lead.dropWhile_append (hstop _)]
  rintro c hc rfl
  cases hc

theorem PackageLine.noMarks (h : line.Valid) : NoMarks (line.lead ++ line.body.render) := by
  simp [body, Line.render, h.lead.noMarks, noMarks_versionKey, h.gap.noMarks, h.pad.noMarks,
    h.string.inert.noMarks, h.trail.noMarks, show opensKey '=' = false from rfl,
    show opensKey '"' = false from rfl]

/-- The reader takes no blanks before the key. -/
theorem ownVersion?_indented {lead : List Char} (h : Blanks lead) (hne : lead ≠ [])
    (rest : List Char) : ownVersion? (lead ++ rest) = none := by
  by_contra hsome
  obtain ⟨field, hread⟩ := Option.ne_none_iff_exists'.mp hsome
  obtain ⟨⟨gap, pad, -, -, hbefore⟩, -, -, whole⟩ := ownVersion?_iff.mp hread
  obtain ⟨c, lead, rfl⟩ := List.exists_cons_of_ne_nil hne
  rw [Field.fill_eq, hbefore] at whole
  obtain ⟨rfl, -⟩ := List.cons.inj whole
  exact absurd (h _ List.mem_cons_self) (by decide)

/-- The reader takes no comment behind the version. -/
theorem ownVersion?_commented {part string : List Char} (hpart : KeyPart versionKey part)
    (hquote : '"' ∉ string) (trail rest : List Char) :
    ownVersion? (part ++ '"' :: (string ++ '"' :: (trail ++ '#' :: rest))) = none := by
  by_contra hsome
  obtain ⟨field, hread⟩ := Option.ne_none_iff_exists'.mp hsome
  obtain ⟨hbefore, hold, hend, whole⟩ := ownVersion?_iff.mp hread
  rw [Field.fill_eq] at whole
  obtain ⟨-, hvalue⟩ := split_at_first hpart.quote_not_mem hbefore.quote_not_mem whole
  obtain ⟨-, hafter⟩ := split_at_first hquote hold.inert.quote hvalue
  have hhash : '#' ∈ field.after := hafter ▸ List.mem_append_right trail List.mem_cons_self
  rcases isLineEnd_mem hend hhash with hc | hc | hc <;> revert hc <;> decide

theorem PackageLine.ownVersion?_render (h : line.Valid) (hother : ¬ line.Standalone)
    (ending : Ending) : ownVersion? (line.render ++ ending.text) = none := by
  by_cases hlead : line.lead = []
  · obtain ⟨text, htext⟩ := Option.ne_none_iff_exists'.mp fun hcomment => hother ⟨hlead, hcomment⟩
    have hpart : KeyPart versionKey (versionKey ++ line.gap ++ '=' :: line.pad) :=
      ⟨line.gap, line.pad, h.gap, h.pad, rfl⟩
    have hread := ownVersion?_commented hpart h.string.inert.quote line.trail
      (text ++ ending.text)
    simpa [render, body, Line.render, commentText, htext, hlead] using hread
  · rw [render, List.append_assoc, List.append_assoc]
    exact ownVersion?_indented h.lead hlead _

def PackageLine.withVersion (version : List Char) (line : PackageLine) : PackageLine :=
  { line with string := version }

def PackageLine.passed (version : List Char) (line : PackageLine) : PackageLine :=
  { line with comment := line.comment.map (setPathVersions version) }

theorem PackageLine.setPathVersions_render (h : line.Valid) (ending : Ending) :
    setPathVersions version (line.render ++ ending.text) =
      (line.passed version).render ++ ending.text := by
  have hcomment : setPathVersions version (commentText line.comment) =
      commentText (line.passed version).comment := by
    cases htext : line.comment with
    | none => simp [commentText, passed, htext, setPathVersions, isPathLine]
    | some text =>
      have hopen := setPathVersions_append version (show NoMarks ['#'] by decide) text
      simpa [commentText, passed, htext] using hopen
  rw [setPathVersions_ending, render, setPathVersions_append version (PackageLine.noMarks h),
    hcomment]
  rfl

def PackageLine.stamp (version table : List Char) (line : PackageLine) : PackageLine :=
  if isPackageTable table = true ∧ line.Standalone then line.withVersion version
  else line.passed version

theorem PackageLine.bumpLine_render (h : line.Valid) (hversion : '\x7b' ∉ version)
    (table : List Char) (ending : Ending) :
    bumpLine table version (line.render ++ ending.text) =
      (line.stamp version table).render ++ ending.text := by
  by_cases hline : line.Standalone
  · have ⟨hlead, hcomment⟩ := hline
    have hrender : ∀ string, (line.withVersion string).render =
        (Line.version line.gap line.pad string line.trail).render := by
      intro string
      simp [render, body, commentText, withVersion, hlead, hcomment]
    have hpassed : line.passed version = line := by
      rw [passed, hcomment, Option.map_none, ← hcomment]
    have hwhole : line.render = line.body.render := hrender line.string
    rw [hwhole, body, bumpLine_version (PackageLine.body_valid h) hversion, stamp, hpassed]
    by_cases htable : isPackageTable table = true
    · rw [if_pos ⟨htable, h.string⟩, if_pos ⟨htable, hline⟩, hrender]
    · rw [if_neg fun hall => htable hall.1, if_neg fun hall => htable hall.1, hwhole, body]
  · rw [bumpLine_inline (PackageLine.ownVersion?_render h hline ending),
      PackageLine.setPathVersions_render h ending, stamp, if_neg fun hall => hline hall.2]

theorem PackageLine.passed_eq_withVersion (line : PackageLine) :
    line.passed version = line.withVersion version ↔
      line.string = version ∧ ∀ text ∈ line.comment, setPathVersions version text = text := by
  obtain ⟨lead, gap, pad, string, trail, comment⟩ := line
  cases comment with
  | none => simp [passed, withVersion]
  | some text => simp [passed, withVersion]

end Line

/-- The version of a package becomes the new one exactly if its line begins with the key and has no
comment, in a table without blanks in its name, or if it is the new one already. Otherwise the line
stays, but for versions in its comment that look like those of tables with a path. -/
theorem bump_package {manifest : PackageManifest} (h : manifest.Valid) {version : String}
    (hversion : '\x7b' ∉ version.toList) : ∃ (line' : PackageLine) (back : List Char),
      bump (String.ofList manifest.render) version =
        String.ofList (bumpText manifest.front version.toList ++
          (line'.render ++ manifest.ending.text ++ back)) ∧
      line' = (if manifest.IsRead then manifest.line.withVersion version.toList
        else manifest.line.passed version.toList) ∧
      (line' = manifest.line.withVersion version.toList ↔ manifest.IsRead ∨
        manifest.line.string = version.toList ∧
          ∀ text ∈ manifest.line.comment, setPathVersions version.toList text = text) := by
  have htable := PackageManifest.tableAfter_front h
  have hstamp : manifest.line.stamp version.toList manifest.header.table.name =
      if manifest.IsRead then manifest.line.withVersion version.toList
        else manifest.line.passed version.toList := by
    simp only [PackageLine.stamp, PackageTable.isPackageTable_name]
    rfl
  have hbump := bumpText_line manifest.ended_front manifest.line.render_ne_nil
    (PackageLine.newline_not_mem h.line) h.ending
    (PackageLine.tableName?_render h.line manifest.ending) version.toList
  rw [htable, PackageLine.bumpLine_render h.line hversion, hstamp] at hbump
  refine ⟨_, bumpLines version.toList manifest.header.table.name (Text.lines manifest.after), ?_,
    rfl, ?_⟩
  · rw [bump, String.toList_ofList, PackageManifest.render, hbump]
  · by_cases hread : manifest.IsRead
    · simp [hread]
    · rw [if_neg hread, or_iff_right hread, PackageLine.passed_eq_withVersion]

def workspaceManifest : PackageManifest where
  before := "[workspace]\nmembers = []\n".toList
  header := ⟨[], [' '], .workspace [] [], [], " # all\r".toList⟩
  fields := ["edition = \"2021\"\r".toList]
  line := ⟨[], [' '], ['\t'], "1.2.3".toList, [' '], none⟩
  ending := .returnFeed
  after := "[profile]\n".toList

theorem bump_package_workspace :
    (workspaceManifest.Valid ∧ '\x7b' ∉ "2.0.0-rc.1".toList) ∧
    ∃ (line' : PackageLine) (back : List Char),
      bump (String.ofList workspaceManifest.render) "2.0.0-rc.1" =
        String.ofList (bumpText workspaceManifest.front "2.0.0-rc.1".toList ++
          (line'.render ++ workspaceManifest.ending.text ++ back)) ∧
      line' = workspaceManifest.line.withVersion "2.0.0-rc.1".toList := by
  have hvalid : workspaceManifest.Valid :=
    ⟨by decide, ⟨by decide, by decide, by decide, by decide, by decide⟩, by decide,
      ⟨by decide, by decide, by decide, by decide, by decide, by decide⟩, .inr (.inl rfl)⟩
  have hversion : '\x7b' ∉ "2.0.0-rc.1".toList := by decide
  have hread : workspaceManifest.IsRead := by decide
  obtain ⟨line', back, hbump, -, hset⟩ := bump_package hvalid hversion
  exact ⟨⟨hvalid, hversion⟩, line', back, hbump, hset.mpr (.inl hread)⟩

/-- An indented line, a line with a comment and a table with blanks in its name keep a version. -/
theorem bump_package_stale :
    bump "[package]\n  version = \"1.2.3\"\n" "2.0.0" = "[package]\n  version = \"1.2.3\"\n" ∧
    bump "[package]\nversion = \"1.2.3\" # first\n" "2.0.0" =
      "[package]\nversion = \"1.2.3\" # first\n" ∧
    bump "[ workspace . package ]\nversion = \"1.2.3\"\n" "2.0.0" =
      "[ workspace . package ]\nversion = \"1.2.3\"\n" := by
  refine ⟨?_, ?_, ?_⟩ <;> decide +kernel

end ReleaseStamp.Manifest
