import ReleaseStamp.Text.Space
import ReleaseStamp.Manifest.Version

/-!
# The lines of a manifest

A line is a table header, or it may set a version: the version of the table it stands in, written
from the first column on, or versions inside an inline table. Each reader splits a line without
losing a character, so that a version can be exchanged and all else kept.
-/
namespace ReleaseStamp.Manifest

open Text (isBlank)

/-- The name in brackets: one opening bracket more is dropped, then the blanks at both ends. -/
def bracketName : List Char → List Char
  | '[' :: rest => Text.trimBy isBlank rest
  | inside => Text.trimBy isBlank inside

/-- The name of the table that a header line opens: blanks, a bracket, and something other than a
closing bracket before one. -/
def tableName? (line : List Char) : Option (List Char) :=
  match line.dropWhile isBlank with
  | '[' :: rest =>
    let inside := rest.takeWhile (· != ']')
    if inside.isEmpty || (rest.dropWhile (· != ']')).isEmpty then none
    else some (bracketName inside)
  | _ => none

def isPackageTable (name : List Char) : Bool :=
  ["package", "workspace.package"].contains (String.ofList name)

/-- Drops `key`, blanks, an equals sign and blanks; also gives what was dropped. -/
def splitKey? (key line : List Char) : Option (List Char × List Char) :=
  if key.isPrefixOf line then
    let rest := line.drop key.length
    match rest.dropWhile isBlank with
    | '=' :: value =>
      some (key ++ rest.takeWhile isBlank ++ '=' :: value.takeWhile isBlank,
        value.dropWhile isBlank)
    | _ => none
  else none

def splitQuotedVersion? : List Char → Option (List Char × List Char)
  | '"' :: rest =>
    let inside := rest.takeWhile (· != '"')
    match rest.dropWhile (· != '"') with
    | '"' :: after => if isVersion inside then some (inside, after) else none
    | _ => none
  | _ => none

/-- A place in a text where a version stands in double quotes. -/
structure Field where
  before : List Char
  version : List Char
  after : List Char
deriving DecidableEq, Repr

def Field.fill (field : Field) (version : List Char) : List Char :=
  field.before ++ '"' :: version ++ '"' :: field.after

def isLineEnd (rest : List Char) : Bool :=
  [[], ['\n'], ['\r'], ['\r', '\n']].contains (rest.dropWhile isBlank)

def versionKey : List Char := ['v', 'e', 'r', 's', 'i', 'o', 'n']

def pathKey : List Char := ['p', 'a', 't', 'h']

def ownVersion? (line : List Char) : Option Field := do
  let (before, rest) ← splitKey? versionKey line
  let (version, after) ← splitQuotedVersion? rest
  if isLineEnd after then some ⟨before, version, after⟩ else none

def opensKey (c : Char) : Bool := c == '\x7b' || c == ','

def inlineVersion? : List Char → Option Field
  | [] => none
  | c :: rest =>
    if opensKey c then do
      let (key, value) ← splitKey? versionKey (rest.dropWhile isBlank)
      let (version, after) ← splitQuotedVersion? value
      some ⟨c :: rest.takeWhile isBlank ++ key, version, after⟩
    else none

def hasPathKey : List Char → Bool
  | [] => false
  | c :: rest =>
    (opensKey c && (splitKey? pathKey (rest.dropWhile isBlank)).isSome) || hasPathKey rest

theorem splitKey?_eq {key line before rest : List Char}
    (h : splitKey? key line = some (before, rest)) : line = before ++ rest := by
  unfold splitKey? at h
  split at h
  · rename_i starts
    obtain ⟨tail, rfl⟩ := List.isPrefixOf_iff_prefix.1 starts
    simp only [List.drop_left] at h
    split at h
    · rename_i value eq
      simp only [Option.some.injEq, Prod.mk.injEq] at h
      obtain ⟨rfl, rfl⟩ := h
      have whole := List.takeWhile_append_dropWhile (p := isBlank) (l := tail)
      rw [eq] at whole
      have part := List.takeWhile_append_dropWhile (p := isBlank) (l := value)
      rw [List.append_assoc, List.append_assoc, List.cons_append, part, whole]
    · cases h
  · cases h

theorem splitQuotedVersion?_eq {line version after : List Char}
    (h : splitQuotedVersion? line = some (version, after)) :
    line = '"' :: version ++ '"' :: after ∧ isVersion version = true := by
  unfold splitQuotedVersion? at h
  split at h
  · rename_i rest
    simp only at h
    split at h
    · rename_i tail eq
      split at h
      · rename_i shape
        simp only [Option.some.injEq, Prod.mk.injEq] at h
        obtain ⟨rfl, rfl⟩ := h
        have whole := List.takeWhile_append_dropWhile (p := (· != '"')) (l := rest)
        rw [eq] at whole
        exact ⟨by rw [List.cons_append, whole], shape⟩
      · cases h
    · cases h
  · cases h

/-- Reading an inline version loses nothing. -/
theorem inlineVersion?_eq {line : List Char} {field : Field}
    (h : inlineVersion? line = some field) : line = field.fill field.version := by
  unfold inlineVersion? at h
  split at h
  · cases h
  · rename_i c rest
    split at h
    · simp only [Option.bind_eq_bind, Option.bind_eq_some_iff, Prod.exists] at h
      obtain ⟨key, value, hkey, version, after, hversion, h⟩ := h
      cases h
      have h1 := splitKey?_eq hkey
      have h2 := (splitQuotedVersion?_eq hversion).1
      have whole := List.takeWhile_append_dropWhile (p := isBlank) (l := rest)
      simp only [Field.fill]
      rw [h1, h2] at whole
      simpa using whole.symm
    · cases h

theorem inlineVersion?_length {line : List Char} {field : Field}
    (h : inlineVersion? line = some field) : field.after.length < line.length := by
  have eq := congrArg List.length (inlineVersion?_eq h)
  simp [Field.fill] at eq
  omega

end ReleaseStamp.Manifest
