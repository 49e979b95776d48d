import ReleaseStamp.Proofs.Manifest.Structured

/-!
# A line at its place

What becomes of one line of a manifest, whatever stands before and after it: a line is set by
itself, once the table is known that it stands in.
-/
namespace ReleaseStamp.Manifest

def tableAfter : List Char → List (List Char) → List Char
  | table, [] => table
  | table, line :: rest => tableAfter ((tableName? line).getD table) rest

theorem bumpLines_append (version table : List Char) (first second : List (List Char)) :
    bumpLines version table (first ++ second) =
      bumpLines version table first ++ bumpLines version (tableAfter table first) second := by
  induction first generalizing table with
  | nil => rfl
  | cons line first ih =>
    rw [List.cons_append, tableAfter, bumpLines, bumpLines]
    cases tableName? line with
    | none => simp only [ih, Option.getD_none, List.append_assoc]
    | some name => simp only [ih, Option.getD_some, List.append_assoc]

theorem tableAfter_append (table : List Char) (first second : List (List Char)) :
    tableAfter table (first ++ second) = tableAfter (tableAfter table first) second := by
  induction first generalizing table with
  | nil => rfl
  | cons line first ih => rw [List.cons_append, tableAfter, tableAfter, ih]

theorem tableAfter_of_none {lines : List (List Char)}
    (h : ∀ line ∈ lines, tableName? line = none) (table : List Char) :
    tableAfter table lines = table := by
  induction lines with
  | nil => rfl
  | cons line lines ih =>
    rw [List.forall_mem_cons] at h
    rw [tableAfter, h.1, Option.getD_none, ih h.2]

def Ended (text : List Char) : Prop := ∀ c ∈ text.getLast?, c = '\n'

instance (text : List Char) : Decidable (Ended text) := inferInstanceAs (Decidable (∀ c ∈ _, _))

theorem lines_cons {c : Char} (hc : c ≠ '\n') {text line : List Char} {others : List (List Char)}
    (h : Text.lines text = line :: others) : Text.lines (c :: text) = (c :: line) :: others := by
  rw [Text.lines, if_neg hc, h]

theorem lines_append_of_ended {front : List Char} (h : Ended front) (rest : List Char) :
    Text.lines (front ++ rest) = Text.lines front ++ Text.lines rest := by
  induction front with
  | nil => rfl
  | cons c front ih =>
    by_cases hc : c = '\n'
    · subst hc
      have hfront : Ended front := by
        cases front with
        | nil => simp [Ended]
        | cons d front => exact h
      have hline : ∀ text, Text.lines ('\n' :: text) = ['\n'] :: Text.lines text := fun text =>
        Text.lines_append List.not_mem_nil text
      rw [List.cons_append, hline, hline, ih hfront, List.cons_append]
    · cases front with
      | nil => exact absurd (h c rfl) hc
      | cons d front =>
        have hne : Text.lines (d :: front) ≠ [] := by
          intro hnil
          have hflat := Text.flatten_lines (d :: front)
          rw [hnil] at hflat
          cases hflat
        obtain ⟨line, others, hlines⟩ := List.exists_cons_of_ne_nil hne
        have hall := ih h
        rw [hlines] at hall
        rw [lines_cons hc hlines]
        exact lines_cons hc hall

/-- Only the last line of a text may have an ending without a line feed. -/
theorem lines_ended {line after : List Char} (hne : line ≠ []) (hline : '\n' ∉ line)
    {ending : Ending} (hending : ending = .feed ∨ ending = .returnFeed ∨ after = []) :
    Text.lines (line ++ ending.text ++ after) = (line ++ ending.text) :: Text.lines after := by
  have hreturn : '\n' ∉ line ++ ['\r'] := by simp [hline]
  cases ending with
  | missing =>
    obtain rfl : after = [] := by simpa using hending
    simpa [Ending.text, Text.lines] using Text.lines_of_not_mem hne hline
  | feed => simpa [Ending.text] using Text.lines_append hline after
  | returnFeed => simpa [Ending.text] using Text.lines_append hreturn after
  | bareReturn =>
    obtain rfl : after = [] := by simpa using hending
    simpa [Ending.text, Text.lines] using Text.lines_of_not_mem (by simp) hreturn

/-- A line that is no header, between what stands before and after it. -/
theorem bumpText_line {before line after : List Char} (hbefore : Ended before) (hne : line ≠ [])
    (hline : '\n' ∉ line) {ending : Ending}
    (hending : ending = .feed ∨ ending = .returnFeed ∨ after = [])
    (hother : tableName? (line ++ ending.text) = none) (version : List Char) :
    bumpText (before ++ (line ++ ending.text ++ after)) version =
      bumpText before version ++
        (bumpLine (tableAfter [] (Text.lines before)) version (line ++ ending.text) ++
          bumpLines version (tableAfter [] (Text.lines before)) (Text.lines after)) := by
  rw [bumpText, lines_append_of_ended hbefore, bumpLines_append, lines_ended hne hline hending,
    bumpLines, hother]
  rfl

end ReleaseStamp.Manifest
