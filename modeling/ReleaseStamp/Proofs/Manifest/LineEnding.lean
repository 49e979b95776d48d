import ReleaseStamp.Proofs.Manifest.Apart

/-!
# Line endings

A manifest whose lines end with a carriage return and a line feed is set like the one whose lines
end with line feeds only. A line is put together from its text and its ending here, and the steps
on a line are seen to leave the ending alone, whichever it is.
-/
namespace ReleaseStamp.Manifest

open Text (isBlank returned)

/-- A text with nothing in it that an ending is made of. -/
def Unended (text : List Char) : Prop := ∀ c ∈ text, (c != '\n' && c != '\r') = true

variable {version body : List Char}

theorem unended_iff {text : List Char} : Unended text ↔ '\n' ∉ text ∧ '\r' ∉ text := by
  constructor
  · intro h
    exact ⟨fun hm => absurd (h _ hm) (by decide), fun hm => absurd (h _ hm) (by decide)⟩
  · rintro ⟨hfeed, hreturn⟩ c hc
    have hc₁ : c ≠ '\n' := fun eq => hfeed (eq ▸ hc)
    have hc₂ : c ≠ '\r' := fun eq => hreturn (eq ▸ hc)
    simp [hc₁, hc₂]

/-- A line is its text and its ending in one way only. -/
theorem eq_of_append_ending {a b : List Char} (ha : Unended a) (hb : Unended b)
    {first second : Ending} (h : a ++ first.text = b ++ second.text) : a = b := by
  have hstop : ∀ ending : Ending, ∀ c ∈ ending.text.head?, (c != '\n' && c != '\r') = false := by
    intro ending
    cases ending <;> decide
  rw [← Text.takeWhile_run ha (hstop first), h, Text.takeWhile_run hb (hstop second)]

/-- Behind its first closing bracket, a header may go on with anything. -/
theorem tableName?_append {rest : List Char} (h : ']' ∉ rest) (line : List Char) :
    tableName? (line ++ rest) = tableName? line := by
  ext name
  rw [tableName?_iff, tableName?_iff]
  constructor
  · rintro ⟨lead, inside, tail, hlead, hne, hinside, hline, rfl⟩
    -- the closing bracket is not in the rest, and so in the line
    have hfront : line ++ rest = (lead ++ '[' :: inside) ++ ']' :: tail := by simp [hline]
    rcases List.append_eq_append_iff.mp hfront with ⟨more, _, hrest⟩ | ⟨close, rfl, hclose⟩
    · exact absurd (by simp [hrest]) h
    · cases close with
      | nil =>
        rw [List.nil_append] at hclose
        exact absurd (hclose ▸ List.mem_cons_self) h
      | cons c close =>
        obtain ⟨rfl, _⟩ := List.cons.inj hclose
        exact ⟨lead, inside, close, hlead, hne, hinside, by simp, rfl⟩
  · rintro ⟨lead, inside, tail, hlead, hne, hinside, rfl, rfl⟩
    exact ⟨lead, inside, tail ++ rest, hlead, hne, hinside, by simp, rfl⟩

theorem tableName?_ending (line : List Char) (ending : Ending) :
    tableName? (line ++ ending.text) = tableName? line := by
  have hbracket : ']' ∉ ending.text := by
    cases ending <;> decide
  exact tableName?_append hbracket line

theorem unended_field {key old trail : List Char} (hkey : KeyPart versionKey key)
    (hold : IsVersion old) (htrail : Blanks trail) :
    Unended (key ++ '"' :: (old ++ '"' :: trail)) := by
  have absent : ∀ c : Char, isBlank c = false → c ∉ versionKey → c ≠ '=' → c ≠ '"' →
      Text.isDigit c = false → isSuffixChar c = false →
      c ∉ key ++ '"' :: (old ++ '"' :: trail) := by
    intro c hblank hword hsign hquote hdigit hsuffix
    have hc : c ∉ old := by
      intro hm
      rcases hold.mem hm with h | h
      · rw [hdigit] at h
        cases h
      · rw [hsuffix] at h
        cases h
    simp [hkey.not_mem hword hblank hsign, htrail.not_mem hblank, hquote, hc]
  rw [unended_iff]
  constructor <;> exact absent _ (by decide) (by decide) (by decide) (by decide) (by decide)
    (by decide)

theorem isLineEnd_unended {trail : List Char} (hend : isLineEnd trail = true)
    (h : Unended trail) : Blanks trail := by
  obtain ⟨blanks, hblanks, ending, rfl⟩ := isLineEnd_iff.mp hend
  rw [unended_iff] at h
  cases ending with
  | missing => simpa [Ending.text] using hblanks
  | feed => simp [Ending.text] at h
  | returnFeed => simp [Ending.text] at h
  | bareReturn => simp [Ending.text] at h

theorem setOwnVersion_ending (version : List Char) (hbody : Unended body) (ending : Ending) :
    setOwnVersion version (body ++ ending.text) = setOwnVersion version body ++ ending.text := by
  cases hread : ownVersion? body with
  | some field =>
    obtain ⟨hkey, hold, hend, whole⟩ := ownVersion?_iff.mp hread
    have htrail : Blanks field.after := by
      refine isLineEnd_unended hend fun c hc => hbody c ?_
      rw [whole, Field.fill_eq]
      simp [hc]
    have hmore := ownVersion?_ending hkey hold htrail ending
    rw [setOwnVersion_field version hread, whole]
    simpa using setOwnVersion_field version hmore
  | none =>
    rw [setOwnVersion_none version hread, setOwnVersion_none]
    by_contra hne
    obtain ⟨field, hfield⟩ := Option.ne_none_iff_exists'.mp hne
    obtain ⟨hkey, hold, hend, whole⟩ := ownVersion?_iff.mp hfield
    obtain ⟨trail, htrail, ending', hafter⟩ := isLineEnd_iff.mp hend
    have hsplit : body ++ ending.text =
        field.before ++ '"' :: (field.version ++ '"' :: trail) ++ ending'.text := by
      rw [whole, Field.fill_eq, hafter]
      simp
    have hsame := eq_of_append_ending hbody (unended_field hkey hold htrail) hsplit
    have hbare := ownVersion?_ending hkey hold htrail .missing
    rw [Ending.text, List.append_nil, ← hsame, hread] at hbare
    cases hbare

theorem bumpLine_ending (table version : List Char) (hbody : Unended body) (ending : Ending) :
    bumpLine table version (body ++ ending.text) = bumpLine table version body ++ ending.text := by
  cases htable : isPackageTable table with
  | false => rw [bumpLine_other htable, bumpLine_other htable, setPathVersions_ending]
  | true =>
    rw [bumpLine_package htable, bumpLine_package htable, setOwnVersion_ending version hbody,
      setPathVersions_ending]

theorem newline_not_mem_bumpLine (table : List Char) (hversion : '\n' ∉ version)
    (hbody : '\n' ∉ body) : '\n' ∉ bumpLine table version body := by
  cases htable : isPackageTable table with
  | false =>
    rw [bumpLine_other htable]
    exact (setPathVersions_edited version body).newline_not_mem hversion hbody
  | true =>
    rw [bumpLine_package htable]
    have hown := (setOwnVersion_edited version body).newline_not_mem hversion hbody
    exact (setPathVersions_edited version _).newline_not_mem hversion hown

theorem bumpLines_returned (hversion : '\n' ∉ version) {ls : List (List Char)}
    (h : Text.Lined ls) (hreturn : ∀ line ∈ ls, '\r' ∉ line) (table : List Char) :
    bumpLines version table (ls.map returned) = returned (bumpLines version table ls) := by
  induction h generalizing table with
  | nil => rfl
  | @last line hne hline =>
    rw [List.map_singleton, Text.returned_of_not_mem hline]
    have hbump := newline_not_mem_bumpLine table hversion hline
    cases hname : tableName? line with
    | none => simp [bumpLines, hname, Text.returned_of_not_mem hbump]
    | some name => simp [bumpLines, hname, Text.returned_of_not_mem hline]
  | @cons body rest hbody _ ih =>
    rw [List.forall_mem_cons] at hreturn
    have hbare : Unended body := unended_iff.mpr ⟨hbody, fun hm => hreturn.1 (by simp [hm])⟩
    have hbump := newline_not_mem_bumpLine table hversion hbody
    have hfeed := bumpLine_ending table version hbare .feed
    have hboth := bumpLine_ending table version hbare .returnFeed
    have hname := tableName?_ending body .feed
    have hname' := tableName?_ending body .returnFeed
    simp only [Ending.text] at hfeed hboth hname hname'
    rw [List.map_cons, Text.returned_ended hbody, bumpLines, bumpLines, hname, hname']
    cases tableName? body with
    | none =>
      simp only
      rw [hfeed, hboth, ih hreturn.2, Text.returned_append, Text.returned_ended hbump]
    | some name =>
      simp only
      rw [ih hreturn.2, Text.returned_append, Text.returned_ended hbody]

/-- The text with a carriage return in front of each line feed. -/
def withReturns (text : String) : String := String.ofList (returned text.toList)

/-- Setting a version in a manifest whose lines end with carriage returns and line feeds gives the
manifest that it gives with line feeds only, but for these endings. -/
theorem bump_withReturns {contents version : String} (hcontents : '\r' ∉ contents.toList)
    (hversion : '\n' ∉ version.toList) :
    bump (withReturns contents) version = withReturns (bump contents version) := by
  have hlines : ∀ line ∈ Text.lines contents.toList, '\r' ∉ line := by
    intro line hline hm
    apply hcontents
    rw [← Text.flatten_lines contents.toList]
    exact List.mem_flatten_of_mem hline hm
  rw [bump, bumpText, withReturns, String.toList_ofList, Text.lines_returned,
    bumpLines_returned hversion (Text.lined_lines _) hlines, withReturns, bump,
    String.toList_ofList, bumpText]

theorem bump_withReturns_brace :
    ('\r' ∉ "[package]\nversion = \"0.1.0\"\na = \x7b version = \"0.1.0\" \x7d".toList ∧
      '\n' ∉ "1\x7b, path =".toList) ∧
    bump (withReturns "[package]\nversion = \"0.1.0\"\na = \x7b version = \"0.1.0\" \x7d")
        "1\x7b, path =" =
      withReturns (bump "[package]\nversion = \"0.1.0\"\na = \x7b version = \"0.1.0\" \x7d"
        "1\x7b, path =") := by
  have hcontents :
      '\r' ∉ "[package]\nversion = \"0.1.0\"\na = \x7b version = \"0.1.0\" \x7d".toList := by decide
  have hversion : '\n' ∉ "1\x7b, path =".toList := by decide
  exact ⟨⟨hcontents, hversion⟩, bump_withReturns hcontents hversion⟩

end ReleaseStamp.Manifest
