import ReleaseStamp.Proofs.Manifest.BumpLine
import ReleaseStamp.Proofs.Text.Lines

/-!
# The last version wins

A manifest that a version has been set in has the lines of the old one, each bumped in the table
that was current there. Setting another version then gives what it would have given at once.
-/
namespace ReleaseStamp.Manifest

open Text (Lined)

def bumpedLines (version : List Char) : List Char → List (List Char) → List (List Char)
  | _, [] => []
  | table, line :: rest =>
    match tableName? line with
    | some name => line :: bumpedLines version name rest
    | none => bumpLine table version line :: bumpedLines version table rest

theorem bumpedLines_header (version : List Char) {line name : List Char}
    (h : tableName? line = some name) (table : List Char) (rest : List (List Char)) :
    bumpedLines version table (line :: rest) = line :: bumpedLines version name rest := by
  simp [bumpedLines, h]

theorem bumpedLines_line (version : List Char) {line : List Char} (h : tableName? line = none)
    (table : List Char) (rest : List (List Char)) :
    bumpedLines version table (line :: rest) =
      bumpLine table version line :: bumpedLines version table rest := by
  simp [bumpedLines, h]

theorem bumpLines_eq_flatten (version table : List Char) (ls : List (List Char)) :
    bumpLines version table ls = (bumpedLines version table ls).flatten := by
  induction ls generalizing table with
  | nil => rfl
  | cons line rest ih =>
    cases h : tableName? line with
    | some name => simp [bumpLines, bumpedLines, h, ih]
    | none => simp [bumpLines, bumpedLines, h, ih]

theorem lined_bumpedLines {version : List Char} (hversion : Inert version) {table : List Char}
    {ls : List (List Char)} (h : Lined ls) : Lined (bumpedLines version table ls) := by
  induction h generalizing table with
  | nil => exact .nil
  | @last line hne hline =>
    cases hname : tableName? line with
    | some name =>
      rw [bumpedLines_header version hname]
      exact .last hne hline
    | none =>
      have hedited := bumpLine_edited hversion.brace table line
      rw [bumpedLines_line version hname]
      exact .last (hedited.ne_nil hne) (hedited.newline_not_mem hversion.newline hline)
  | @cons body rest hbody _ ih =>
    cases hname : tableName? (body ++ ['\n']) with
    | some name =>
      rw [bumpedLines_header version hname]
      exact .cons hbody ih
    | none =>
      have hedited := bumpLine_edited hversion.brace table (body ++ ['\n'])
      obtain ⟨body', hbody', hline⟩ := hedited.line hversion.newline hbody
      rw [bumpedLines_line version hname, hline]
      exact .cons hbody' ih

theorem lines_bumpText {version : List Char} (hversion : Inert version) (contents : List Char) :
    Text.lines (bumpText contents version) = bumpedLines version [] (Text.lines contents) := by
  rw [bumpText, bumpLines_eq_flatten]
  exact Text.lines_flatten (lined_bumpedLines hversion (Text.lined_lines contents))

/-- Both passes meet the same headers, so that every line is bumped in the same table. -/
theorem bumpedLines_bumpedLines {first second : List Char} (hfirst : Inert first)
    (h : IsVersion first ∨ first = second) (table : List Char) (ls : List (List Char)) :
    bumpedLines second table (bumpedLines first table ls) = bumpedLines second table ls := by
  induction ls generalizing table with
  | nil => rfl
  | cons line rest ih =>
    cases hname : tableName? line with
    | some name => simp only [bumpedLines_header _ hname, ih]
    | none =>
      have hagain := tableName?_bumpLine hfirst.bracket hfirst.brace table hname
      simp only [bumpedLines_line _ hname, bumpedLines_line _ hagain, ih,
        bumpLine_bumpLine hfirst h]

theorem bumpText_bumpText {first second : List Char} (hfirst : Inert first)
    (h : IsVersion first ∨ first = second) (contents : List Char) :
    bumpText (bumpText contents first) second = bumpText contents second := by
  rw [bumpText, lines_bumpText hfirst, bumpLines_eq_flatten, bumpedLines_bumpedLines hfirst h,
    ← bumpLines_eq_flatten, bumpText]

theorem bump_bump {first second : String} (hfirst : Inert first.toList)
    (h : IsVersion first.toList ∨ first = second) (contents : String) :
    bump (bump contents first) second = bump contents second := by
  rw [bump, bump, String.toList_ofList,
    bumpText_bumpText hfirst (h.imp_right (congrArg String.toList)), bump]

theorem foldl_bump {earlier : List String} (h : ∀ version ∈ earlier, IsVersion version.toList)
    (last contents : String) : bump (earlier.foldl bump contents) last = bump contents last := by
  induction earlier generalizing contents with
  | nil => rfl
  | cons version earlier ih =>
    have hversion := h version List.mem_cons_self
    rw [List.foldl_cons, ih fun v hv => h v (List.mem_cons_of_mem _ hv),
      bump_bump hversion.inert (Or.inl hversion)]

/-- Of version numbers set one after the other, with any text as the last, only the last is left:
the manifest is what setting it at once would have given. -/
theorem last_version_wins (contents last : String) :
    (∀ version : String, IsVersion version.toList →
      bump (bump contents version) last = bump contents last) ∧
    ∀ earlier : List String, (∀ version ∈ earlier, IsVersion version.toList) →
      (earlier ++ [last]).foldl bump contents = bump contents last := by
  constructor
  · intro version hversion
    exact bump_bump hversion.inert (Or.inl hversion) contents
  · intro earlier h
    rw [List.foldl_append, List.foldl_cons, List.foldl_nil]
    exact foldl_bump h last contents

theorem last_version_wins_over_release :
    (∀ version ∈ ["0.2.0", "1.0.0-rc.1"], IsVersion version.toList) ∧
    (["0.2.0", "1.0.0-rc.1"] ++ ["next\", path = \"x"]).foldl bump
        "[package]\nversion = \"0.1.0\"\n[dependencies]\na = \x7b path = \"a\", version = \"0.1.0\" \x7d"
      = bump
        "[package]\nversion = \"0.1.0\"\n[dependencies]\na = \x7b path = \"a\", version = \"0.1.0\" \x7d"
        "next\", path = \"x" := by
  have h : ∀ version ∈ ["0.2.0", "1.0.0-rc.1"], IsVersion version.toList := by decide +kernel
  exact ⟨h, (last_version_wins _ _).2 _ h⟩

end ReleaseStamp.Manifest
