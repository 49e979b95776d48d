import ReleaseStamp.Proofs.Manifest.BumpLine

/-!
# The versions that are exchanged

Setting a version cuts a manifest at some of the versions in it. What stands between the cuts is
kept, and the new version comes into each of them. Every cut lies on one line that is no header,
between the quotes behind a `version` key.
-/
namespace ReleaseStamp.Manifest

structure Exchange where
  kept : List Char
  old : List Char
deriving DecidableEq, Repr

def textBefore (exchanges : List Exchange) (last : List Char) : List Char :=
  exchanges.flatMap (fun exchange => exchange.kept ++ exchange.old) ++ last

def textAfter (version : List Char) (exchanges : List Exchange) (last : List Char) : List Char :=
  exchanges.flatMap (fun exchange => exchange.kept ++ version) ++ last

/-- In a text of these lines, a version stands in double quotes behind a version key, on a line that
is no header. All that is in front of it in the text is `front`, and all behind it `back`. -/
inductive Quoted : (lines : List (List Char)) → (front old back : List Char) → Prop where
  | intro {lead key old trail} (above below : List (List Char)) :
      KeyPart versionKey key → IsVersion old →
      tableName? (lead ++ (key ++ '"' :: (old ++ '"' :: trail))) = none →
      Quoted (above ++ (lead ++ (key ++ '"' :: (old ++ '"' :: trail))) :: below)
        (above.flatten ++ (lead ++ (key ++ ['"']))) old ('"' :: (trail ++ below.flatten))

/-- Two texts are the same but for a version, and each of the exchanged ones has its place in the
first text: what is in front of it, itself, and what is behind it. -/
structure Exchanged (version before after : List Char)
    (place : List Char → List Char → List Char → Prop) (exchanges : List Exchange)
    (last : List Char) : Prop where
  before_eq : before = textBefore exchanges last
  after_eq : after = textAfter version exchanges last
  places : ∀ done exchange rest, exchanges = done ++ exchange :: rest →
    place (textBefore done exchange.kept) exchange.old (textBefore rest last)

variable {version before after last : List Char} {exchanges : List Exchange}
  {place : List Char → List Char → List Char → Prop}

theorem textBefore_cons (exchange : Exchange) (exchanges : List Exchange) (last : List Char) :
    textBefore (exchange :: exchanges) last =
      exchange.kept ++ (exchange.old ++ textBefore exchanges last) := by
  simp [textBefore]

theorem textAfter_cons (version : List Char) (exchange : Exchange) (exchanges : List Exchange)
    (last : List Char) : textAfter version (exchange :: exchanges) last =
      exchange.kept ++ (version ++ textAfter version exchanges last) := by
  simp [textAfter]

theorem exchanged_nil : Exchanged version [] [] place [] [] := by
  refine ⟨rfl, rfl, ?_⟩
  intro done exchange rest h
  simp at h

/-- One more exchange in front of the others. -/
theorem Exchanged.exchange {kept old : List Char} (hplace : place kept old before)
    (h : Exchanged version before after (fun front => place (kept ++ (old ++ front)))
      exchanges last) :
    Exchanged version (kept ++ (old ++ before)) (kept ++ (version ++ after)) place
      (⟨kept, old⟩ :: exchanges) last := by
  obtain ⟨rfl, rfl, hplaces⟩ := h
  refine ⟨(textBefore_cons ⟨kept, old⟩ exchanges last).symm,
    (textAfter_cons version ⟨kept, old⟩ exchanges last).symm, ?_⟩
  intro done exchange rest hsplit
  cases done with
  | nil =>
    cases hsplit
    exact hplace
  | cons first done =>
    obtain ⟨rfl, hothers⟩ := List.cons.inj hsplit
    rw [textBefore_cons]
    exact hplaces done exchange rest hothers

/-- A text in front is kept with the first exchange, or with the last text if there is none. -/
theorem Exchanged.prepend (lead : List Char)
    (h : Exchanged version before after (fun front => place (lead ++ front)) exchanges last) :
    ∃ exchanges last, Exchanged version (lead ++ before) (lead ++ after) place exchanges last := by
  obtain ⟨rfl, rfl, hplaces⟩ := h
  cases exchanges with
  | nil =>
    refine ⟨[], lead ++ last, rfl, rfl, ?_⟩
    intro done exchange rest hsplit
    simp at hsplit
  | cons first exchanges =>
    refine ⟨⟨lead ++ first.kept, first.old⟩ :: exchanges, last, ?_, ?_, ?_⟩
    · simp [textBefore_cons]
    · simp [textAfter_cons]
    · intro done exchange rest hsplit
      cases done with
      | nil =>
        cases hsplit
        exact hplaces [] first exchanges rfl
      | cons other done =>
        obtain ⟨rfl, hothers⟩ := List.cons.inj hsplit
        have hplace := hplaces (first :: done) exchange rest (congrArg (first :: ·) hothers)
        simpa [textBefore_cons] using hplace

/-- The exchanges of a line that is edited come before those of the text behind it. -/
theorem Edited.exchanged {line line' : List Char} (h : Edited version line line')
    (hline : ∀ lead key old trail, KeyPart versionKey key → IsVersion old →
      line = lead ++ (key ++ '"' :: (old ++ '"' :: trail)) →
      place (lead ++ (key ++ ['"'])) old ('"' :: (trail ++ before)))
    (hrest : ∃ exchanges last,
      Exchanged version before after (fun front => place (line ++ front)) exchanges last) :
    ∃ exchanges last,
      Exchanged version (line ++ before) (line' ++ after) place exchanges last := by
  induction h generalizing place with
  | nil => exact hrest
  | keep c _ ih =>
    obtain ⟨exchanges, last, hexchanged⟩ := @ih (fun front => place (c :: front))
      (fun lead key old trail hkey hold hsplit =>
        hline (c :: lead) key old trail hkey hold (by rw [hsplit]; rfl)) hrest
    exact hexchanged.prepend [c]
  | @exchange line line' key old hkey hold _ ih =>
    -- behind the old version, the line goes on with the quote that closes it
    have hclose : ∃ exchanges last, Exchanged version ('"' :: (line ++ before))
        ('"' :: (line' ++ after)) (fun front => place (key ++ ['"'] ++ (old ++ front)))
        exchanges last := by
      obtain ⟨exchanges, last, hexchanged⟩ :=
        @ih (fun front => place (key ++ ['"'] ++ (old ++ '"' :: front)))
          (fun lead key' old' trail hkey' hold' hsplit => by
            have hplace := hline (key ++ '"' :: (old ++ '"' :: lead)) key' old' trail hkey' hold'
              (by simp [hsplit])
            simpa using hplace)
          (by simpa using hrest)
      exact hexchanged.prepend ['"']
    obtain ⟨exchanges, last, hexchanged⟩ := hclose
    have hplace : place (key ++ ['"']) old ('"' :: (line ++ before)) := by
      simpa using hline [] key old line hkey hold rfl
    exact ⟨_, _, by simpa using hexchanged.exchange hplace⟩

theorem bumpLines_exchanged (hversion : '\x7b' ∉ version) (table : List Char)
    (above lines : List (List Char)) :
    ∃ exchanges last, Exchanged version lines.flatten (bumpLines version table lines)
      (fun front => Quoted (above ++ lines) (above.flatten ++ front)) exchanges last := by
  induction lines generalizing table above with
  | nil => exact ⟨[], [], exchanged_nil⟩
  | cons line rest ih =>
    have hplace : ∀ front, Quoted (above ++ [line] ++ rest) ((above ++ [line]).flatten ++ front) =
        Quoted (above ++ line :: rest) (above.flatten ++ (line ++ front)) := by
      intro front
      simp
    have hrest := fun table => ih table (above ++ [line])
    simp only [hplace] at hrest
    rw [bumpLines, List.flatten_cons]
    cases hname : tableName? line with
    | some name =>
      obtain ⟨exchanges, last, hexchanged⟩ := hrest name
      exact hexchanged.prepend line
    | none =>
      refine (bumpLine_edited hversion table line).exchanged ?_ (hrest table)
      rintro lead key old trail hkey hold rfl
      exact .intro above rest hkey hold hname

/-- Only versions change, each of them in double quotes behind a version key and its equals sign,
and none of them in a header. -/
theorem bump_exchanged (contents : String) {version : String} (h : '\x7b' ∉ version.toList) :
    ∃ exchanges last, Exchanged version.toList contents.toList (bump contents version).toList
      (Quoted (Text.lines contents.toList)) exchanges last := by
  have hlines := bumpLines_exchanged h [] [] (Text.lines contents.toList)
  rw [Text.flatten_lines] at hlines
  rw [bump, String.toList_ofList]
  exact hlines

theorem bump_exchanged_two_lines :
    '\x7b' ∉ "2\"\n[x]".toList ∧ ∃ exchanges last, Exchanged "2\"\n[x]".toList
      "[package]\nversion = \"0.1.0\"\na = \x7b path = \"a\", version = \"0.1.0\" \x7d".toList
      (bump "[package]\nversion = \"0.1.0\"\na = \x7b path = \"a\", version = \"0.1.0\" \x7d"
        "2\"\n[x]").toList
      (Quoted (Text.lines
        "[package]\nversion = \"0.1.0\"\na = \x7b path = \"a\", version = \"0.1.0\" \x7d".toList))
      exchanges last := by
  have h : '\x7b' ∉ "2\"\n[x]".toList := by decide
  exact ⟨h, bump_exchanged _ h⟩

end ReleaseStamp.Manifest
