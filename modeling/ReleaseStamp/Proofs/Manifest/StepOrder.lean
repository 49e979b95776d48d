import ReleaseStamp.Proofs.Manifest.BumpLine

/-!
# The order of the steps on a line

A line is set in two steps: its own version, then the versions of its inline tables. No line has
both, and neither step makes a line that the other would set. So the steps may change places.
-/
namespace ReleaseStamp.Manifest

variable {version : List Char}

/-- What one step sets or changes, the other leaves as it is, before and after. -/
structure StepsApart (version line : List Char) : Prop where
  own : ownVersion? line ≠ none ∨ setOwnVersion version line ≠ line →
    setPathVersions version line = line ∧
      setPathVersions version (setOwnVersion version line) = setOwnVersion version line
  inline : setPathVersions version line ≠ line →
    ownVersion? line = none ∧ ownVersion? (setPathVersions version line) = none

theorem setPathVersions_of_own {line : List Char} {field : Field}
    (hread : ownVersion? line = some field) (version : List Char) :
    setPathVersions version line = line := by
  obtain ⟨_, hold, _, whole⟩ := ownVersion?_iff.mp hread
  rw [whole, setPathVersions_fill hread hold.inert.brace]

theorem stepsApart (h : '\x7b' ∉ version) (line : List Char) : StepsApart version line := by
  constructor
  · intro hset
    cases hread : ownVersion? line with
    | none =>
      rw [hread, setOwnVersion_none version hread] at hset
      simp at hset
    | some field =>
      rw [setOwnVersion_field version hread]
      exact ⟨setPathVersions_of_own hread version, setPathVersions_fill hread h version⟩
  · intro hset
    cases hread : ownVersion? line with
    | none => exact ⟨rfl, ownVersion?_setPathVersions version hread⟩
    | some field => exact absurd (setPathVersions_of_own hread version) hset

/-- Sets the versions of a line that is no header, those of its inline tables first. -/
def bumpLineInlineFirst (table version line : List Char) : List Char :=
  let line := setPathVersions version line
  if isPackageTable table then setOwnVersion version line else line

theorem bumpLineInlineFirst_eq (h : '\x7b' ∉ version) (table line : List Char) :
    bumpLineInlineFirst table version line = bumpLine table version line := by
  rw [bumpLineInlineFirst]
  cases htable : isPackageTable table with
  | false => simp [bumpLine_other htable]
  | true =>
    simp only [if_true, bumpLine_package htable]
    cases hread : ownVersion? line with
    | none =>
      rw [setOwnVersion_none version hread,
        setOwnVersion_none version (ownVersion?_setPathVersions version hread)]
    | some field =>
      obtain ⟨hline, hset⟩ := (stepsApart h line).own (.inl (by simp [hread]))
      rw [hline, hset]

def passLines (step : List Char → List Char → List Char) : List Char → List (List Char) → List Char
  | _, [] => []
  | table, line :: rest =>
    match tableName? line with
    | some name => line ++ passLines step name rest
    | none => step table line ++ passLines step table rest

theorem bumpLines_eq_passLines (version table : List Char) (lines : List (List Char)) :
    bumpLines version table lines =
      passLines (fun table => bumpLine table version) table lines := by
  induction lines generalizing table with
  | nil => rfl
  | cons line rest ih =>
    rw [bumpLines, passLines]
    cases tableName? line with
    | none => simp only [ih]
    | some name => simp only [ih]

def bumpInlineFirst (contents version : String) : String :=
  String.ofList (passLines (fun table => bumpLineInlineFirst table version.toList) []
    (Text.lines contents.toList))

/-- The two steps never meet on a line, so that their order does not matter: neither for a line, in
whatever table, nor for a manifest. -/
theorem bumpInlineFirst_eq_bump {version : String} (h : '\x7b' ∉ version.toList) :
    (∀ line, StepsApart version.toList line ∧ ∀ table,
      bumpLineInlineFirst table version.toList line = bumpLine table version.toList line) ∧
    ∀ contents, bumpInlineFirst contents version = bump contents version := by
  refine ⟨fun line => ⟨stepsApart h line, fun table => bumpLineInlineFirst_eq h table line⟩, ?_⟩
  intro contents
  have hsteps : (fun table => bumpLineInlineFirst table version.toList) =
      fun table => bumpLine table version.toList := by
    funext table line
    exact bumpLineInlineFirst_eq h table line
  rw [bumpInlineFirst, hsteps, ← bumpLines_eq_passLines, bump, bumpText]

/-- A version with a comma, a path key and a quote in it, in a package with both kinds of lines. -/
theorem bumpInlineFirst_eq_bump_comma :
    let version := "2\", path = \"b"
    let own := "version = \"0.1.0\"\n"
    let path := "a = \x7b version = \"0.1.0\", path = \"a\" \x7d\n"
    let ownSet := "version = \"2\", path = \"b\"\n"
    let pathSet := "a = \x7b version = \"2\", path = \"b\", path = \"a\" \x7d\n"
    '\x7b' ∉ version.toList ∧ StepsApart version.toList own.toList ∧
    bumpLineInlineFirst "package".toList version.toList own.toList = ownSet.toList ∧
    bumpInlineFirst ("[package]\n" ++ own ++ path) version =
      "[package]\n" ++ ownSet ++ pathSet := by
  intro version own path ownSet pathSet
  have h : '\x7b' ∉ version.toList := by decide
  obtain ⟨hlines, hall⟩ := bumpInlineFirst_eq_bump h
  obtain ⟨hapart, horder⟩ := hlines own.toList
  have hline : bumpLine "package".toList version.toList own.toList = ownSet.toList := by
    decide +kernel
  have hbump : bump ("[package]\n" ++ own ++ path) version =
      "[package]\n" ++ ownSet ++ pathSet := by
    decide +kernel
  exact ⟨h, hapart, (horder _).trans hline, (hall _).trans hbump⟩

/-- With a brace in the version, the first step can bring what the second one sets. -/
example : bumpInlineFirst "[package]\nversion = \"0.1.0\"\n" "\x7b version = \"1.0.0\", path =" ≠
    bump "[package]\nversion = \"0.1.0\"\n" "\x7b version = \"1.0.0\", path =" := by
  decide +kernel

end ReleaseStamp.Manifest
