import ReleaseStamp.Proofs.Manifest.HeaderPattern

/-!
# The patterns of versions

Besides the pattern of a header, three patterns say what is set in a manifest: that of a version
line, that of a version in an inline table, and that of a path key. Each takes the texts of a
grammar that leaves no choice, so its match is what the reader of a line finds, and setting
versions by the patterns alone is setting versions.
-/
namespace ReleaseStamp.Manifest

open Text (Pattern Match isBlank)

def numberPattern : Pattern := .oneOrMore Text.isDigit

def isSign (c : Char) : Bool := c == '-' || c == '+'

def suffixPattern : Pattern := .one isSign ++ .many isSuffixChar

/-- As a regular expression, this is `\d+\.\d+\.\d+(?:[-+][0-9A-Za-z.+-]*)?`. -/
def semverPattern : Pattern :=
  numberPattern ++ (.text ['.'] ++ (numberPattern ++ (.text ['.'] ++
    (numberPattern ++ .optional suffixPattern))))

def keyPattern (key : List Char) : Pattern :=
  .text key ++ (.many isBlank ++ (.text ['='] ++ .many isBlank))

def quotedPattern : Pattern := .text ['"'] ++ (semverPattern ++ .text ['"'])

def endPattern : Pattern :=
  .many isBlank ++ (.optional (.text ['\r']) ++ .optional (.text ['\n']))

/-- As a regular expression, this is `^(version[ \t]*=[ \t]*)"SEMVER"([ \t]*\r?\n?)$`. -/
def ownVersionPattern : Pattern :=
  .group (keyPattern versionKey) ++ (quotedPattern ++ (.group endPattern ++ .stop))

def inlineKeyPattern : Pattern := .one opensKey ++ (.many isBlank ++ keyPattern versionKey)

/-- As a regular expression, this is `([{,][ \t]*version[ \t]*=[ \t]*)"SEMVER"`. -/
def inlinePattern : Pattern := .group inlineKeyPattern ++ quotedPattern

/-- As a regular expression, this is `[{,][ \t]*path[ \t]*=`. -/
def pathKeyPattern : Pattern :=
  .one opensKey ++ (.many isBlank ++ (.text pathKey ++ (.many isBlank ++ .text ['='])))

theorem hasLanguage_semver : semverPattern.HasLanguage IsVersion := by
  have hnumber : numberPattern.HasLanguage IsNumber := Text.hasLanguage_oneOrMore Text.isDigit
  have hpoint := Text.hasLanguage_text ['.']
  have hsuffix : (Pattern.optional suffixPattern).HasLanguage IsVersionSuffix := by
    refine ((Text.hasLanguage_one isSign).append
      (Text.hasLanguage_many isSuffixChar)).optional.congr fun text => ?_
    rw [or_comm, IsVersionSuffix]
    apply or_congr_right
    constructor
    · rintro ⟨_, rest, ⟨sign, hsign, rfl⟩, hrest, rfl⟩
      exact ⟨sign, rest, by simpa [isSign] using hsign, hrest, rfl⟩
    · rintro ⟨sign, rest, hsign, hrest, rfl⟩
      exact ⟨[sign], rest, ⟨sign, by simpa [isSign] using hsign, rfl⟩, hrest, rfl⟩
  refine (hnumber.append (hpoint.append (hnumber.append (hpoint.append
    (hnumber.append hsuffix))))).congr fun text => ?_
  constructor
  · rintro ⟨major, _, hmajor, ⟨_, _, rfl, ⟨minor, _, hminor, ⟨_, _, rfl, ⟨patch, suffix, hpatch,
      hsuffix, rfl⟩, rfl⟩, rfl⟩, rfl⟩, rfl⟩
    exact ⟨major, minor, patch, suffix, hmajor, hminor, hpatch, hsuffix, rfl⟩
  · rintro ⟨major, minor, patch, suffix, hmajor, hminor, hpatch, hsuffix, rfl⟩
    exact ⟨major, _, hmajor, ⟨_, _, rfl, ⟨minor, _, hminor, ⟨_, _, rfl, ⟨patch, suffix, hpatch,
      hsuffix, rfl⟩, rfl⟩, rfl⟩, rfl⟩, rfl⟩

theorem hasLanguage_key (key : List Char) : (keyPattern key).HasLanguage (KeyPart key) := by
  have hblanks : (Pattern.many isBlank).HasLanguage Blanks := Text.hasLanguage_many isBlank
  refine ((Text.hasLanguage_text key).append (hblanks.append
    ((Text.hasLanguage_text ['=']).append hblanks))).congr fun text => ?_
  constructor
  · rintro ⟨_, _, rfl, ⟨gap, _, hgap, ⟨_, pad, rfl, hpad, rfl⟩, rfl⟩, rfl⟩
    exact ⟨gap, pad, hgap, hpad, by simp⟩
  · rintro ⟨gap, pad, hgap, hpad, rfl⟩
    exact ⟨_, _, rfl, ⟨gap, _, hgap, ⟨_, pad, rfl, hpad, rfl⟩, rfl⟩, by simp⟩

theorem hasLanguage_inlineKey : inlineKeyPattern.HasLanguage (InlineKeyPart versionKey) := by
  have hblanks : (Pattern.many isBlank).HasLanguage Blanks := Text.hasLanguage_many isBlank
  refine ((Text.hasLanguage_one opensKey).append (hblanks.append
    (hasLanguage_key versionKey))).congr fun text => ?_
  constructor
  · rintro ⟨_, _, ⟨mark, hmark, rfl⟩, ⟨lead, part, hlead, hpart, rfl⟩, rfl⟩
    exact ⟨mark, lead, part, hmark, hlead, hpart, rfl⟩
  · rintro ⟨mark, lead, part, hmark, hlead, hpart, rfl⟩
    exact ⟨_, _, ⟨mark, hmark, rfl⟩, ⟨lead, part, hlead, hpart, rfl⟩, rfl⟩

theorem hasLanguage_quoted : quotedPattern.HasLanguage fun text =>
    ∃ version, IsVersion version ∧ text = '"' :: (version ++ ['"']) := by
  have hquote := Text.hasLanguage_text ['"']
  refine (hquote.append (hasLanguage_semver.append hquote)).congr fun text => ?_
  constructor
  · rintro ⟨_, _, rfl, ⟨version, _, hversion, rfl, rfl⟩, rfl⟩
    exact ⟨version, hversion, rfl⟩
  · rintro ⟨version, hversion, rfl⟩
    exact ⟨_, _, rfl, ⟨version, _, hversion, rfl, rfl⟩, rfl⟩

theorem hasLanguage_end : endPattern.HasLanguage fun text =>
    ∃ blanks, Blanks blanks ∧ ∃ ending : Ending, text = blanks ++ ending.text := by
  have hblanks : (Pattern.many isBlank).HasLanguage Blanks := Text.hasLanguage_many isBlank
  refine (hblanks.append ((Text.hasLanguage_text ['\r']).optional.append
    (Text.hasLanguage_text ['\n']).optional)).congr fun text => ?_
  constructor
  · rintro ⟨blanks, _, hblanks, ⟨_, _, rfl | rfl, rfl | rfl, rfl⟩, rfl⟩
    · exact ⟨blanks, hblanks, .returnFeed, rfl⟩
    · exact ⟨blanks, hblanks, .bareReturn, rfl⟩
    · exact ⟨blanks, hblanks, .feed, rfl⟩
    · exact ⟨blanks, hblanks, .missing, rfl⟩
  · rintro ⟨blanks, hblanks, ending, rfl⟩
    refine ⟨blanks, ending.text, hblanks, ?_, rfl⟩
    cases ending
    · exact ⟨[], [], .inr rfl, .inr rfl, rfl⟩
    · exact ⟨[], ['\n'], .inr rfl, .inl rfl, rfl⟩
    · exact ⟨['\r'], ['\n'], .inl rfl, .inl rfl, rfl⟩
    · exact ⟨['\r'], [], .inl rfl, .inr rfl, rfl⟩

def Field.inlineMatch (field : Field) : Match :=
  ⟨field.before ++ '"' :: (field.version ++ ['"']), [field.before], field.after⟩

def Field.ownMatch (field : Field) : Match :=
  ⟨field.before ++ '"' :: (field.version ++ '"' :: field.after), [field.before, field.after], []⟩

theorem find?_inlinePattern (line : List Char) :
    inlinePattern.find? line = (inlineVersion? line).map Field.inlineMatch := by
  apply Text.find?_eq_map
  rintro ⟨taken, groups, rest⟩
  rw [Text.mem_ways, inlinePattern, hasLanguage_inlineKey.takes_group_append]
  simp only [hasLanguage_quoted _ _ _, inlineVersion?_iff, Field.fill_eq]
  constructor
  · rintro ⟨⟨before, _, _, hbefore, ⟨⟨version, hversion, rfl⟩, rfl⟩, rfl, rfl⟩, rfl⟩
    exact ⟨⟨before, version, rest⟩, ⟨hbefore, hversion, by simp⟩, rfl⟩
  · rintro ⟨field, ⟨hbefore, hversion, rfl⟩, heq⟩
    cases heq
    exact ⟨⟨field.before, _, [], hbefore, ⟨⟨field.version, hversion, rfl⟩, rfl⟩, rfl, rfl⟩, by simp⟩

theorem find?_ownVersionPattern (line : List Char) :
    ownVersionPattern.find? line = (ownVersion? line).map Field.ownMatch := by
  apply Text.find?_eq_map
  rintro ⟨taken, groups, rest⟩
  rw [Text.mem_ways, ownVersionPattern, (hasLanguage_key versionKey).takes_group_append]
  simp only [hasLanguage_quoted.takes_append, hasLanguage_end.takes_group_append, Pattern.Takes,
    ownVersion?_eq_some_iff]
  constructor
  · rintro ⟨⟨before, _, _, hbefore, ⟨_, _, ⟨version, hversion, rfl⟩, ⟨after, _, _, hafter,
      ⟨rfl, rfl, rfl⟩, rfl, rfl⟩, rfl⟩, rfl, rfl⟩, rfl⟩
    exact ⟨⟨before, version, after⟩, ⟨hbefore, hversion, hafter, by simp⟩,
      by simp [Field.ownMatch]⟩
  · rintro ⟨field, ⟨hbefore, hversion, hafter, rfl⟩, heq⟩
    cases heq
    exact ⟨⟨field.before, _, _, hbefore,
      ⟨_, _, ⟨field.version, hversion, rfl⟩, ⟨field.after, [], [],
      hafter, ⟨rfl, rfl, rfl⟩, rfl, rfl⟩, rfl⟩, by simp, rfl⟩, by simp⟩

theorem setOwnVersion_eq_replace (version line : List Char) :
    setOwnVersion version line = ownVersionPattern.replace
      (fun found => found.group 0 ++ '"' :: (version ++ '"' :: found.group 1)) line := by
  rw [setOwnVersion, Pattern.replace, find?_ownVersionPattern]
  cases ownVersion? line with
  | none => rfl
  | some field => simp [Field.ownMatch, Match.group]

theorem setInlineVersions_eq_replaceAll (version line : List Char) :
    setInlineVersions version line = inlinePattern.replaceAll
      (fun found => found.group 0 ++ '"' :: (version ++ ['"'])) line := by
  induction line using inline_induction with
  | nil => rw [setInlineVersions_nil, Pattern.replaceAll, Text.scan_nil]; rfl
  | field line found hread ih =>
    have hfind := find?_inlinePattern line
    rw [hread, Option.map_some] at hfind
    rw [setInlineVersions_field version hread, Pattern.replaceAll,
      Text.scan_found hfind (by simp [Field.inlineMatch]), ih]
    simp [Pattern.replaceAll, Field.inlineMatch, Match.group]
  | cons c rest hread ih =>
    have hfind := find?_inlinePattern (c :: rest)
    rw [hread, Option.map_none] at hfind
    rw [setInlineVersions_cons version hread, Pattern.replaceAll, Text.scan_cons hfind, ih]
    rfl

theorem hasLanguage_pathKey : pathKeyPattern.HasLanguage fun text =>
    ∃ mark lead gap, opensKey mark = true ∧ Blanks lead ∧ Blanks gap ∧
      text = mark :: (lead ++ (pathKey ++ (gap ++ ['=']))) := by
  have hblanks : (Pattern.many isBlank).HasLanguage Blanks := Text.hasLanguage_many isBlank
  refine ((Text.hasLanguage_one opensKey).append (hblanks.append
    ((Text.hasLanguage_text pathKey).append (hblanks.append
      (Text.hasLanguage_text ['=']))))).congr fun text => ?_
  constructor
  · rintro ⟨_, _, ⟨mark, hmark, rfl⟩, ⟨lead, _, hlead, ⟨_, _, rfl, ⟨gap, _, hgap, rfl, rfl⟩, rfl⟩,
      rfl⟩, rfl⟩
    exact ⟨mark, lead, gap, hmark, hlead, hgap, rfl⟩
  · rintro ⟨mark, lead, gap, hmark, hlead, hgap, rfl⟩
    exact ⟨_, _, ⟨mark, hmark, rfl⟩, ⟨lead, _, hlead, ⟨_, _, rfl, ⟨gap, _, hgap, rfl, rfl⟩, rfl⟩,
      rfl⟩, rfl⟩

theorem hasPathKey_eq_isIn (line : List Char) : hasPathKey line = pathKeyPattern.isIn line := by
  induction line with
  | nil => rfl
  | cons c rest ih =>
    rw [Bool.eq_iff_iff, hasPathKey_cons, Pattern.isIn, Bool.or_eq_true, ← ih]
    apply or_congr_left
    rw [hasLanguage_pathKey.find?_isSome_iff]
    constructor
    · rintro ⟨hmark, lead, gap, hlead, hgap, hprefix⟩
      exact ⟨_, ⟨c, lead, gap, hmark, hlead, hgap, rfl⟩, List.prefix_cons_inj c |>.mpr hprefix⟩
    · rintro ⟨_, ⟨mark, lead, gap, hmark, hlead, hgap, rfl⟩, hprefix⟩
      obtain ⟨rfl, hrest⟩ := List.cons_prefix_cons.mp hprefix
      exact ⟨hmark, lead, gap, hlead, hgap, hrest⟩

def bumpLineMatched (table version line : List Char) : List Char :=
  let line := if isPackageTable table then ownVersionPattern.replace
    (fun found => found.group 0 ++ '"' :: (version ++ '"' :: found.group 1)) line else line
  if line.contains '\x7b' && pathKeyPattern.isIn line then inlinePattern.replaceAll
    (fun found => found.group 0 ++ '"' :: (version ++ ['"'])) line else line

def bumpMatched (version : List Char) : List Char → List (List Char) → List Char
  | _, [] => []
  | table, line :: rest =>
    match headerPattern.captured? line with
    | some name => line ++ bumpMatched version name rest
    | none => bumpLineMatched table version line ++ bumpMatched version table rest

theorem bumpLine_eq_bumpLineMatched (table version line : List Char) :
    bumpLine table version line = bumpLineMatched table version line := by
  simp only [bumpLine, bumpLineMatched, isPathLine, setOwnVersion_eq_replace, hasPathKey_eq_isIn,
    setInlineVersions_eq_replaceAll]

theorem bumpMatched_eq (version table : List Char) (lines : List (List Char)) :
    bumpMatched version table lines = bumpCaptured version table lines := by
  induction lines generalizing table with
  | nil => rfl
  | cons line rest ih =>
    rw [bumpMatched, bumpCaptured, bumpLine_eq_bumpLineMatched]
    cases headerPattern.captured? line with
    | none => exact congrArg _ (ih table)
    | some name => exact congrArg _ (ih name)

/-- A manifest is read by the four patterns alone. -/
theorem bump_eq_bumpMatched (contents version : String) : bump contents version =
    String.ofList (bumpMatched version.toList [] (Text.lines contents.toList)) := by
  rw [bump, bumpText, bumpMatched_eq, bumpCaptured_eq rfl]

end ReleaseStamp.Manifest
