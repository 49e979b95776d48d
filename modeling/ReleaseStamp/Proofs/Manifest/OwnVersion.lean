import ReleaseStamp.Proofs.Manifest.Place

/-!
# Version lines

The line below the header of a package is a version line if it is put together in a certain way: the
key from the first column on, a version number in double quotes, and blanks up to its end. Exactly
such a line takes a new version, in one place only. What differs in any part of it is kept.
-/
namespace ReleaseStamp.Manifest

variable {version line : List Char} {field : Field}

/-- A version line, put together of the parts of the field: the key with its sign, the quoted
version, and blanks in front of what ends the line. -/
structure OwnVersion (line : List Char) (field : Field) : Prop where
  key : KeyPart versionKey field.before
  version : IsVersion field.version
  trail : ∃ blanks, Blanks blanks ∧ ∃ ending : Ending, field.after = blanks ++ ending.text
  whole : line = field.before ++ '"' :: (field.version ++ '"' :: field.after)

theorem ownVersion?_eq_some_iff : ownVersion? line = some field ↔ OwnVersion line field := by
  rw [ownVersion?_iff, isLineEnd_iff, Field.fill_eq]
  constructor
  · rintro ⟨hkey, hversion, htrail, whole⟩
    exact ⟨hkey, hversion, htrail, whole⟩
  · rintro ⟨hkey, hversion, htrail, whole⟩
    exact ⟨hkey, hversion, htrail, whole⟩

/-- There is one way only to take a version line apart. -/
theorem OwnVersion.unique {field' : Field} (h : OwnVersion line field)
    (h' : OwnVersion line field') : field' = field := by
  have hread := ownVersion?_eq_some_iff.mpr h'
  rw [ownVersion?_eq_some_iff.mpr h] at hread
  exact (Option.some.inj hread).symm

theorem ownVersion?_eq_none_iff :
    ownVersion? line = none ↔ ∀ field, ¬ OwnVersion line field := by
  simp only [Option.eq_none_iff_forall_not_mem, Option.mem_def, ownVersion?_eq_some_iff]

theorem OwnVersion.ne_nil (h : OwnVersion line field) : line ≠ [] := by
  rw [h.whole]
  simp

theorem bumpText_packageHeader (version line : List Char) :
    bumpText ("[package]\n".toList ++ line) version =
      "[package]\n".toList ++ bumpLines version "package".toList (Text.lines line) := by
  have hended : Ended "[package]\n".toList := by decide
  have hlines : Text.lines "[package]\n".toList = ["[package]\n".toList] := by decide
  have hname : tableName? "[package]\n".toList = some "package".toList := by decide
  rw [bumpText, lines_append_of_ended hended, hlines, List.singleton_append, bumpLines, hname]

theorem OwnVersion.bumpLines (h : OwnVersion line field) (hfeed : '\n' ∉ line.dropLast)
    (hversion : '\x7b' ∉ version) {table : List Char} (htable : isPackageTable table = true) :
    bumpLines version table (Text.lines line) =
      field.before ++ '"' :: (version ++ '"' :: field.after) := by
  have hread := ownVersion?_eq_some_iff.mpr h
  have hother : tableName? line = none := by
    rw [h.whole]
    exact tableName?_keyPart h.key _
  rw [Text.lines_of_dropLast h.ne_nil hfeed, Manifest.bumpLines, hother, bumpLine_package htable,
    setOwnVersion_field version hread, setPathVersions_fill hread hversion, Field.fill_eq]
  simp [Manifest.bumpLines]

theorem bumpLines_eq_self (hbrace : '\x7b' ∉ line) (hfeed : '\n' ∉ line.dropLast)
    (hread : ownVersion? line = none) (version table : List Char) :
    bumpLines version table (Text.lines line) = line := by
  by_cases hne : line = []
  · rw [hne]
    rfl
  · have hline : bumpLine table version line = line :=
      bumpLine_eq_self (setPathVersions_of_not_mem hbrace version) fun _ => hread
    rw [Text.lines_of_dropLast hne hfeed, bumpLines]
    -- a header is kept as a header, and any other line because nothing is found in it
    cases tableName? line with
    | none => simp [bumpLines, hline]
    | some name => simp [bumpLines]

/-- A line without a brace below the header of a package takes a new version exactly if it is a
version line, and then in the only place where it has one. -/
theorem bump_packageLine {line version : String} (hbrace : '\x7b' ∉ line.toList)
    (hfeed : '\n' ∉ line.toList.dropLast) (hversion : '\x7b' ∉ version.toList) :
    (∀ field, OwnVersion line.toList field →
      bump ("[package]\n" ++ line) version = "[package]\n" ++
        (String.ofList field.before ++ "\"" ++ version ++ "\"" ++ String.ofList field.after)) ∧
    (∀ field field', OwnVersion line.toList field → OwnVersion line.toList field' →
      field' = field) ∧
    ((∀ field, ¬ OwnVersion line.toList field) →
      bump ("[package]\n" ++ line) version = "[package]\n" ++ line) := by
  have hbump : bump ("[package]\n" ++ line) version = "[package]\n" ++
      String.ofList (bumpLines version.toList "package".toList (Text.lines line.toList)) := by
    rw [bump, String.toList_append, bumpText_packageHeader, String.ofList_append,
      String.ofList_toList]
  refine ⟨?_, fun field field' h h' => h.unique h', ?_⟩
  · intro field h
    rw [hbump, h.bumpLines hfeed hversion (by decide), ← List.singleton_append,
      ← List.singleton_append (l := field.after)]
    simp [String.append_assoc]
  · intro h
    rw [hbump, bumpLines_eq_self hbrace hfeed (ownVersion?_eq_none_iff.mpr h), String.ofList_toList]

/-- A digit of another script and a sign without a suffix are part of a version, a fourth number is
not. -/
theorem bump_packageLine_fourth_number :
    let line := "version\t= \"1.٢.30-\" \r\n"
    let field : Field := ⟨"version\t= ".toList, "1.٢.30-".toList, " \r\n".toList⟩
    let other := "version\t= \"1.٢.30.4\" \r\n"
    (('\x7b' ∉ line.toList ∧ '\n' ∉ line.toList.dropLast ∧ '\x7b' ∉ "2.0".toList) ∧
      OwnVersion line.toList field) ∧
    bump ("[package]\n" ++ line) "2.0" = "[package]\nversion\t= \"2.0\" \r\n" ∧
    (∀ field', OwnVersion line.toList field' → field' = field) ∧
    (('\x7b' ∉ other.toList ∧ '\n' ∉ other.toList.dropLast) ∧
      ∀ field, ¬ OwnVersion other.toList field) ∧
    bump ("[package]\n" ++ other) "2.0" = "[package]\n" ++ other := by
  intro line field other
  have hline : '\x7b' ∉ line.toList ∧ '\n' ∉ line.toList.dropLast := by decide
  have hother : '\x7b' ∉ other.toList ∧ '\n' ∉ other.toList.dropLast := by decide
  have hversion : '\x7b' ∉ "2.0".toList := by decide
  have hfield : OwnVersion line.toList field := ownVersion?_eq_some_iff.mp (by decide +kernel)
  have hnone : ∀ field, ¬ OwnVersion other.toList field :=
    ownVersion?_eq_none_iff.mp (by decide +kernel)
  obtain ⟨hset, honce, -⟩ := bump_packageLine hline.1 hline.2 hversion
  obtain ⟨-, -, hkeep⟩ := bump_packageLine hother.1 hother.2 hversion
  exact ⟨⟨⟨hline.1, hline.2, hversion⟩, hfield⟩, hset field hfield, fun _ => honce _ _ hfield,
    ⟨hother, hnone⟩, hkeep hnone⟩

end ReleaseStamp.Manifest
