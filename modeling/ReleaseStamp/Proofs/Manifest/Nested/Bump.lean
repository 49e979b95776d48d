import ReleaseStamp.Proofs.Manifest.Nested.Path
import ReleaseStamp.Proofs.Manifest.Nested.Requirement
import ReleaseStamp.Proofs.Manifest.Place

/-!
# The versions of dependencies without a path

A line is set as a whole. The versions of tables without a path stay as they are if nothing on the
line is taken for a path; otherwise all of them are set as well.
-/
namespace ReleaseStamp.Manifest.Nested

open Text (isBlank isDigit)

variable {version : List Char} {line : Line}

theorem Line.render_ne_nil (line : Line) : line.render ≠ [] := by
  simp [Line.render]

def Line.tail (line : Line) (ending : Ending) : List Char :=
  line.trail ++ (commentText line.comment ++ ending.text)

theorem Line.head_tail (h : line.Valid) (ending : Ending) :
    ∀ c ∈ (line.tail ending).head?, isDigit c = false := by
  refine head_blanks h.trail ?_
  intro c hc
  cases hcomment : line.comment with
  | some text =>
    rw [hcomment] at hc
    cases hc
    decide
  | none =>
    rw [hcomment, commentText, List.nil_append] at hc
    rcases ending_cases ending with hend | ⟨d, rest, hend, -, hd, -⟩
    · rw [hend] at hc
      cases hc
    · rw [hend] at hc
      cases hc
      exact hd.digit

theorem Line.setInlineVersions_tail (h : line.Valid) (ending : Ending) :
    setInlineVersions version (line.tail ending) = (line.stamp version).tail ending := by
  rw [Line.tail, setInlineVersions_append version h.trail.noMarks]
  cases hcomment : line.comment with
  | none =>
    simp [Line.tail, commentText, Line.stamp, hcomment,
      setInlineVersions_of_noMarks version ending.noMarks]
  | some text =>
    have hopen := setInlineVersions_append version (show NoMarks ['#'] by decide)
      (text ++ ending.text)
    rw [setInlineVersions_ending] at hopen
    simpa [Line.tail, commentText, Line.stamp, hcomment] using hopen

theorem Line.hasPathKey_tail (h : line.Valid) (ending : Ending) :
    hasPathKey (line.tail ending) = true ↔ ∃ text ∈ line.comment.toList, LooksLikePath text := by
  rw [Line.tail, hasPathKey_append h.trail.noMarks]
  cases hcomment : line.comment with
  | none =>
    simp [commentText, hasPathKey_of_noMarks ending.noMarks]
  | some text =>
    have hopen := hasPathKey_append (show NoMarks ['#'] by decide) (text ++ ending.text)
    rw [hasPathKey_ending] at hopen
    simpa [commentText, hcomment, looksLikePath_iff] using congrArg (· = true) hopen

def Line.head (line : Line) : Head := .entry line.lead line.key line.gap line.pad

theorem Line.head_valid (h : line.Valid) : line.head.Valid true :=
  ⟨rfl, h.lead, h.key, h.gap, h.pad⟩

theorem Line.render_tail (line : Line) (ending : Ending) :
    line.render ++ ending.text = line.head.render ++ line.value.render ++ line.tail ending := by
  simp [Line.render, Line.tail, Line.head, Head.render]

theorem Line.setInlineVersions_render (h : line.Valid) (ending : Ending) :
    setInlineVersions version (line.render ++ ending.text) =
      (line.stamp version).render ++ ending.text := by
  have hvalue : Sets version line.value.render (line.value.stamp version).render :=
    Value.sets h.value
  have hline := Head.sets (Line.head_valid h) hvalue (line.tail ending) (Line.head_tail h ending)
  rw [Line.render_tail, Line.render_tail, hline, Line.setInlineVersions_tail h]
  rfl

theorem Line.hasPathKey_render (h : line.Valid) (ending : Ending) :
    hasPathKey (line.render ++ ending.text) = true ↔ line.MentionsPath := by
  have hline := Head.finds (Line.head_valid h) (Value.finds h.value) (line.tail ending)
  have hsplit : line.MentionsPath ↔ Mentions [] line.key.bodies ∨
      Mentions line.value.keys line.value.bodies ∨ Mentions [] line.comment.toList := by
    rw [← mentions_append, ← mentions_append, List.nil_append, List.append_nil]
    rfl
  rw [Line.render_tail, List.append_assoc, ← List.append_assoc, hline, Line.hasPathKey_tail h,
    hsplit, mentions_nil, mentions_nil, or_assoc]
  rfl

mutual

theorem Value.brace_mem : ∀ {value : Value}, value.hasTable = true → '\x7b' ∈ value.render
  | .array members, h => by
    have hmem := Members.brace_mem h
    simp [Value.render, hmem]
  | .table members, _ => List.mem_cons_self

theorem Members.brace_mem : ∀ {members : Members}, members.hasTable = true →
    '\x7b' ∈ members.render
  | .last head value trail, h => by
    have hmem := Value.brace_mem h
    simp [Members.render, hmem]
  | .more head value trail rest, h => by
    rw [Members.hasTable, Bool.or_eq_true] at h
    rcases h with hvalue | hrest
    · have hmem := Value.brace_mem hvalue
      simp [Members.render, hmem]
    · have hmem := Members.brace_mem hrest
      simp [Members.render, hmem]

end

theorem Line.brace_mem (h : line.Valid) (ending : Ending) :
    '\x7b' ∈ line.render ++ ending.text := by
  have hmem := Value.brace_mem h.table
  simp [Line.render, hmem]

theorem Line.tableName?_render (h : line.Valid) (ending : Ending) :
    tableName? (line.render ++ ending.text) = none := by
  apply tableName?_of_head
  simp only [Line.render, List.append_assoc]
  rw [h.lead.dropWhile_append (Key.head_not_blank h.key _)]
  rintro c hc rfl
  exact absurd (Key.head_start h.key _ _ hc) (by simp [IsKeyStart, isBareKeyChar])

/-- What becomes of a line, whatever section it stands in. -/
theorem Line.bumpLine_render (h : line.Valid) (ending : Ending) (table : List Char) :
    bumpLine table version (line.render ++ ending.text) =
      (if line.MentionsPath then line.stamp version else line).render ++ ending.text := by
  have hbrace := Line.brace_mem h ending
  rw [bumpLine_inline (ownVersion?_eq_none_of_brace hbrace), setPathVersions]
  by_cases hpath : line.MentionsPath
  · have hread := isPathLine_iff.mpr ⟨hbrace, (Line.hasPathKey_render h ending).mpr hpath⟩
    rw [if_pos hread, if_pos hpath, Line.setInlineVersions_render h]
  · have hread : ¬ isPathLine (line.render ++ ending.text) = true := fun hread =>
      hpath ((Line.hasPathKey_render h ending).mp (isPathLine_iff.mp hread).2)
    rw [if_neg hread, if_neg hpath]

def Line.pathless (line : Line) : List Requirement := line.value.pathless

theorem Line.pathless_stamp (line : Line) : (line.stamp version).pathless = line.pathless ↔
    ∀ requirement ∈ line.pathless, requirement.stamp version = requirement := by
  rw [Line.pathless, Line.pathless, Line.stamp, Value.pathless_stamp]
  have hmap := @List.map_inj_left _ _ line.value.pathless (Requirement.stamp version) id
  rw [List.map_id] at hmap
  exact hmap

/-- A line of tables stays as it is, or every version on it is set. So the versions of its tables
without a path stay exactly if nothing on the line looks like a path, or if setting a version does
not change them. -/
theorem bump_nested {before after : List Char} (hbefore : Ended before) (h : line.Valid)
    {ending : Ending} (hending : ending = .feed ∨ ending = .returnFeed ∨ after = [])
    (version : String) : ∃ line' back,
      bump (String.ofList (before ++ (line.render ++ ending.text ++ after))) version =
        String.ofList (bumpText before version.toList ++ (line'.render ++ ending.text ++ back)) ∧
      line' = (if line.MentionsPath then line.stamp version.toList else line) ∧
      (line'.pathless = line.pathless ↔ ¬ line.MentionsPath ∨
        ∀ requirement ∈ line.pathless, requirement.stamp version.toList = requirement) := by
  refine ⟨_, bumpLines version.toList (tableAfter [] (Text.lines before)) (Text.lines after), ?_,
    rfl, ?_⟩
  · rw [bump, String.toList_ofList, bumpText_line hbefore line.render_ne_nil h.one_line hending
      (Line.tableName?_render h ending), Line.bumpLine_render h]
  · by_cases hpath : line.MentionsPath
    · rw [if_pos hpath, Line.pathless_stamp, or_iff_right (not_not_intro hpath)]
    · rw [if_neg hpath]
      simp [hpath]

def twoTables : Line where
  lead := []
  key := .last (.bare "a".toList)
  gap := [' ']
  pad := [' ']
  value := .array <|
    .more (.item []) (.table (.last (.entry [' '] (.last (.bare versionKey)) [' '] [' '])
      (.quoted (.basic "1.2.3".toList)) [' '])) [] <|
    .last (.item [' ']) (.table (.last (.entry [' '] (.last (.bare "b".toList)) [' '] [' '])
      (.quoted (.literal ", x".toList)) [' '])) []
  trail := [' ']
  comment := some " one, two".toList

theorem bump_nested_two_tables :
    Ended "[dependencies]\n".toList ∧ twoTables.Valid ∧
    twoTables.render =
      "a = [\x7b version = \"1.2.3\" \x7d, \x7b b = ', x' \x7d] # one, two".toList ∧
    ∃ (line' : Line) (back : List Char),
      bump (String.ofList ("[dependencies]\n".toList ++ (twoTables.render ++
        Ending.feed.text ++ []))) "2.0.0" = String.ofList
          (bumpText "[dependencies]\n".toList "2.0.0".toList ++
            (line'.render ++ Ending.feed.text ++ back)) ∧
      line'.pathless = twoTables.pathless := by
  have hbefore : Ended "[dependencies]\n".toList := by decide
  have hline : twoTables.Valid := by decide
  have hrender : twoTables.render =
      "a = [\x7b version = \"1.2.3\" \x7d, \x7b b = ', x' \x7d] # one, two".toList := by decide
  have hpath : ¬ twoTables.MentionsPath := by decide
  have hending : Ending.feed = .feed ∨ Ending.feed = .returnFeed ∨ ([] : List Char) = [] :=
    .inl rfl
  obtain ⟨line', back, hbump, -, hkept⟩ := bump_nested hbefore hline hending "2.0.0"
  exact ⟨hbefore, hline, hrender, line', back, hbump, hkept.mpr (.inl hpath)⟩

/-- A path in a comment is enough for the version of a table without one to be set. -/
theorem bump_nested_comment :
    bump "[dependencies]\nserde = \x7b version = \"1.0.130\" \x7d # or \x7b path = \"a\" \x7d\n"
        "2.0.0" =
      "[dependencies]\nserde = \x7b version = \"2.0.0\" \x7d # or \x7b path = \"a\" \x7d\n" := by
  decide +kernel

end ReleaseStamp.Manifest.Nested
