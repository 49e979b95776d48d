import ReleaseStamp.Text.Utf8

/-!
# Paths

A path is made of bytes, which need not be a text. It is kept as it was written: joining puts a
slash between, and nothing is normalised. Its components are the parts between slashes; an empty
part or a lone point is none, except that a leading point counts and a leading empty part stands for
the root.
-/
namespace ReleaseStamp

/-- A path, or a name in one. -/
@[ext]
structure Path where
  bytes : List UInt8
deriving DecidableEq, Repr, Inhabited

namespace Path

def ofString (text : String) : Path := ⟨text.toUTF8.data.toList⟩

instance : Coe String Path := ⟨ofString⟩

instance : Append Path := ⟨fun path rest => ⟨path.bytes ++ rest.bytes⟩⟩

@[simp]
theorem bytes_append (path rest : Path) : (path ++ rest).bytes = path.bytes ++ rest.bytes := rfl

@[simp]
theorem ofString_inj {text other : String} : ofString text = ofString other ↔ text = other := by
  simp [Path.ext_iff, ofString, ← ByteArray.ext_iff, String.toByteArray_inj]

instance : LT Path := ⟨fun a b => a.bytes < b.bytes⟩

instance (a b : Path) : Decidable (a < b) := inferInstanceAs (Decidable (a.bytes < b.bytes))

def isEmpty (path : Path) : Bool := path.bytes.isEmpty

@[simp]
theorem empty_append (path : Path) : ("" : String) ++ path = path := rfl

theorem append_assoc (path name rest : Path) : path ++ name ++ rest = path ++ (name ++ rest) :=
  Path.ext (List.append_assoc _ _ _)

theorem bytes_eq_nil_iff {path : Path} : path.bytes = [] ↔ path = "" := Path.ext_iff.symm

theorem append_eq_empty_iff {path rest : Path} : path ++ rest = "" ↔ path = "" ∧ rest = "" := by
  rw [← bytes_eq_nil_iff, ← bytes_eq_nil_iff, ← bytes_eq_nil_iff, bytes_append,
    List.append_eq_nil_iff]

@[simp]
theorem isEmpty_iff {path : Path} : path.isEmpty = true ↔ path = "" := by
  rw [isEmpty, List.isEmpty_iff, bytes_eq_nil_iff]

def text? (path : Path) : Option String := String.fromUTF8? ⟨path.bytes.toArray⟩

/-- A path as it is shown: what is no text in it is replaced. -/
def shown (path : Path) : String :=
  path.text?.getD (String.ofList (Text.decodeUtf8 none path.bytes))

def slash : UInt8 := 0x2F

def point : UInt8 := 0x2E

@[simp]
theorem bytes_slash : (ofString "/").bytes = [slash] := rfl

def parts : List UInt8 → List (List UInt8)
  | [] => [[]]
  | byte :: rest =>
    if byte = slash then [] :: parts rest
    else match parts rest with
      | [] => [[byte]]
      | part :: others => (byte :: part) :: others

def unparts : List (List UInt8) → List UInt8
  | [] => []
  | [part] => part
  | part :: others => part ++ slash :: unparts others

theorem parts_ne_nil (bytes : List UInt8) : parts bytes ≠ [] := by
  cases bytes with
  | nil => simp [parts]
  | cons byte rest =>
    unfold parts
    split
    · simp
    · split <;> simp

theorem unparts_parts (bytes : List UInt8) : unparts (parts bytes) = bytes := by
  induction bytes with
  | nil => rfl
  | cons byte rest ih =>
    unfold parts
    split
    · rename_i here
      subst here
      cases h : parts rest with
      | nil => exact absurd h (parts_ne_nil rest)
      | cons part others => rw [h] at ih; simp [unparts, ih]
    · split
      · rename_i h
        exact absurd h (parts_ne_nil rest)
      · rename_i part others h
        rw [h] at ih
        cases others <;> simp_all [unparts]

def isAbsolute (path : Path) : Bool := path.bytes.head? == some slash

def endsWithSlash (path : Path) : Bool := path.bytes.getLast? == some slash

/-- `name` below `path`; an absolute `name` stands alone. -/
def join (path name : Path) : Path :=
  if isAbsolute name then name
  else if path.isEmpty || endsWithSlash path then path ++ name
  else path ++ "/" ++ name

def isIdle (part : List UInt8) : Bool := part.isEmpty || part == [point]

def trimParts : List (List UInt8) → List (List UInt8)
  | [] => []
  | first :: rest => first :: (rest.reverse.dropWhile isIdle).reverse

def ofParts (kept : List (List UInt8)) : Path :=
  if kept == [[]] then "/" else ⟨unparts kept⟩

/-- The path without its last component. The root and the empty path have none. -/
def parent? (path : Path) : Option Path :=
  match trimParts (parts path.bytes) with
  | [] => none
  | [first] => if first.isEmpty then none else some ""
  | kept => some (ofParts (trimParts kept.dropLast))

def fileName? (path : Path) : Option Path :=
  match trimParts (parts path.bytes) with
  | [] => none
  | [first] => if isIdle first || first == [point, point] then none else some ⟨first⟩
  | kept =>
    match kept.getLast? with
    | some last => if last == [point, point] then none else some ⟨last⟩
    | none => none

def ancestorsUpTo : Nat → Path → List Path
  | 0, _ => []
  | count + 1, path =>
    path :: match parent? path with
      | some above => ancestorsUpTo count above
      | none => []

def ancestors (path : Path) : List Path := ancestorsUpTo (path.bytes.length + 1) path

def steps (path : Path) : List Path :=
  ((parts path.bytes).filter (!·.isEmpty)).map Path.mk

end Path

end ReleaseStamp
