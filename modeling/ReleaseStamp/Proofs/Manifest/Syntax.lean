import ReleaseStamp.Proofs.Manifest.Field
import ReleaseStamp.Text.Split

/-!
# Structured manifests

The part of the manifest format in which the fields that a release sets are told apart by the
syntax alone: headers, version lines, inline tables on one line, and lines without braces. A
manifest is a list of rows here, and what setting a version means for it is said on the rows,
without the readers of the text.
-/
namespace ReleaseStamp.Manifest

open Text (isBlank)

inductive Ending where
  | missing
  | feed
  | returnFeed
  | bareReturn
deriving DecidableEq, Repr

def Ending.text : Ending → List Char
  | missing => []
  | feed => ['\n']
  | returnFeed => ['\r', '\n']
  | bareReturn => ['\r']

def commentText : Option (List Char) → List Char
  | some text => '#' :: text
  | none => []

structure Item where
  lead : List Char
  string : List Char
  trail : List Char
deriving DecidableEq, Repr

inductive Value where
  | text (string : List Char)
  /-- An array of strings. -/
  | texts (items : List Item)
  /-- A number, a date or a truth value. -/
  | scalar (word : List Char)
deriving DecidableEq, Repr

structure Entry where
  lead : List Char
  key : List Char
  gap : List Char
  pad : List Char
  value : Value
  trail : List Char
deriving DecidableEq, Repr

inductive Line where
  /-- A header in single or, for a table of an array, double brackets. -/
  | header (lead : List Char) (double : Bool) (before name after rest : List Char)
  | version (gap pad string trail : List Char)
  | plain (text : List Char)
  | table (lead key gap pad : List Char) (entries : List Entry) (trail : List Char)
deriving DecidableEq, Repr

structure Row where
  line : Line
  ending : Ending
deriving DecidableEq, Repr

def Item.render (item : Item) : List Char :=
  item.lead ++ '"' :: (item.string ++ '"' :: item.trail)

def Value.render : Value → List Char
  | text string => '"' :: (string ++ ['"'])
  | texts items => '[' :: (Text.joinBy ',' (items.map Item.render) ++ [']'])
  | scalar word => word

def Entry.render (entry : Entry) : List Char :=
  entry.lead ++ (entry.key ++ (entry.gap ++ '=' :: (entry.pad ++ (entry.value.render ++
    entry.trail))))

def Line.render : Line → List Char
  | header lead false before name after rest =>
    lead ++ '[' :: (before ++ name ++ after ++ ']' :: rest)
  | header lead true before name after rest =>
    lead ++ '[' :: '[' :: (before ++ name ++ after ++ ']' :: ']' :: rest)
  | version gap pad string trail =>
    versionKey ++ gap ++ '=' :: pad ++ '"' :: (string ++ '"' :: trail)
  | plain text => text
  | table lead key gap pad entries trail =>
    lead ++ key ++ gap ++ '=' :: pad ++ '\x7b' :: (Text.joinBy ',' (entries.map Entry.render) ++
      '\x7d' :: trail)

def Row.render (row : Row) : List Char := row.line.render ++ row.ending.text

def render (rows : List Row) : List Char := rows.flatMap Row.render

def isBareKeyChar (c : Char) : Bool := c.isAlphanum || c == '_' || c == '-'

def IsBareKey (key : List Char) : Prop := key ≠ [] ∧ ∀ c ∈ key, isBareKeyChar c = true

def IsPlainString (string : List Char) : Prop :=
  ∀ c ∈ string, c ∉ ['"', '\x7b', ',', '\n']

def IsScalar (word : List Char) : Prop :=
  word ≠ [] ∧ (∀ c ∈ word.head?, isBlank c = false) ∧
    ∀ c ∈ word, c ∉ ['"', '\x7b', '\x7d', '[', ']', ',', '=', '\n']

def Item.Valid (item : Item) : Prop :=
  Blanks item.lead ∧ IsPlainString item.string ∧ Blanks item.trail

def Value.Valid : Value → Prop
  | text string => IsPlainString string
  | texts items => ∀ item ∈ items, item.Valid
  | scalar word => IsScalar word

structure Entry.Valid (entry : Entry) : Prop where
  lead : Blanks entry.lead
  key : IsBareKey entry.key
  gap : Blanks entry.gap
  pad : Blanks entry.pad
  value : entry.value.Valid
  trail : Blanks entry.trail

def IsTableName (name : List Char) : Prop :=
  name ≠ [] ∧ ∀ c ∈ name, c ∉ ['[', ']', '\n'] ∧ isBlank c = false

def Line.Valid : Line → Prop
  | header lead _ before name after rest =>
    Blanks lead ∧ Blanks before ∧ IsTableName name ∧ Blanks after ∧ '\n' ∉ rest
  | version gap pad string trail =>
    Blanks gap ∧ Blanks pad ∧ ('"' ∉ string ∧ '\n' ∉ string) ∧ Blanks trail
  | plain text =>
    (∀ c ∈ (text.dropWhile isBlank).head?, c ≠ '[') ∧ '\x7b' ∉ text ∧ '\n' ∉ text
  | table lead key gap pad entries trail =>
    Blanks lead ∧ IsBareKey key ∧ Blanks gap ∧ Blanks pad ∧ (∀ entry ∈ entries, entry.Valid) ∧
      Blanks trail

instance (text : List Char) : Decidable (Blanks text) :=
  inferInstanceAs (Decidable (∀ c ∈ text, isBlank c = true))

instance (key : List Char) : Decidable (IsBareKey key) := inferInstanceAs (Decidable (_ ∧ _))

instance (string : List Char) : Decidable (IsPlainString string) :=
  inferInstanceAs (Decidable (∀ c ∈ string, _))

instance (word : List Char) : Decidable (IsScalar word) := inferInstanceAs (Decidable (_ ∧ _))

instance (item : Item) : Decidable item.Valid := inferInstanceAs (Decidable (_ ∧ _))

instance : (value : Value) → Decidable value.Valid
  | .text string => inferInstanceAs (Decidable (IsPlainString string))
  | .texts items => inferInstanceAs (Decidable (∀ item ∈ items, item.Valid))
  | .scalar word => inferInstanceAs (Decidable (IsScalar word))

instance (entry : Entry) : Decidable entry.Valid :=
  decidable_of_iff (Blanks entry.lead ∧ IsBareKey entry.key ∧ Blanks entry.gap ∧
      Blanks entry.pad ∧ entry.value.Valid ∧ Blanks entry.trail)
    ⟨fun ⟨lead, key, gap, pad, value, trail⟩ => ⟨lead, key, gap, pad, value, trail⟩,
      fun ⟨lead, key, gap, pad, value, trail⟩ => ⟨lead, key, gap, pad, value, trail⟩⟩

instance (name : List Char) : Decidable (IsTableName name) := inferInstanceAs (Decidable (_ ∧ _))

instance : (line : Line) → Decidable line.Valid
  | .header _ _ _ _ _ _ => inferInstanceAs (Decidable (_ ∧ _))
  | .version _ _ _ _ => inferInstanceAs (Decidable (_ ∧ _))
  | .plain _ => inferInstanceAs (Decidable (_ ∧ _))
  | .table _ _ _ _ _ _ => inferInstanceAs (Decidable (_ ∧ _))

def IsVersionLine (endings : List Ending) (text : List Char) : Prop :=
  ∃ gap pad string trail, (Line.version gap pad string trail).Valid ∧
    ∃ ending ∈ endings, text = (Row.mk (.version gap pad string trail) ending).render

/-- A well-formed row. A plain line is none of the version lines. -/
def Row.Valid (endings : List Ending) (row : Row) : Prop :=
  row.line.Valid ∧ ∀ text, row.line = .plain text → ¬ IsVersionLine endings row.render

/-- Rows with a line feed each, but for the last one, which may have any of the endings. -/
inductive Structured (endings : List Ending) : List Row → Prop where
  | nil : Structured endings []
  | last {row} : row.Valid endings → row.ending ∈ endings → Structured endings [row]
  | cons {row rest} : row.Valid endings → row.ending = .feed ∨ row.ending = .returnFeed →
      Structured endings rest → Structured endings (row :: rest)

def Line.opens? : Line → Option (List Char)
  | header _ _ _ name _ _ => some name
  | _ => none

def InPackage (rows : List Row) : Prop :=
  (rows.filterMap (·.line.opens?)).getLast? ∈
    [some "package".toList, some "workspace.package".toList]

instance (rows : List Row) : Decidable (InPackage rows) :=
  inferInstanceAs (Decidable (_ ∈ _))

def Entry.stamp (version : List Char) (entry : Entry) : Entry :=
  match entry.value with
  | .text string =>
    if entry.key = versionKey ∧ IsVersion string then { entry with value := .text version }
    else entry
  | _ => entry

/-- A version line of a package and the inline tables with a path take the version. -/
def Line.stamp (version : List Char) (before : List Row) : Line → Line
  | .version gap pad string trail =>
    if InPackage before ∧ IsVersion string then .version gap pad version trail
    else .version gap pad string trail
  | table lead key gap pad entries trail =>
    if ∃ entry ∈ entries, entry.key = pathKey then
      table lead key gap pad (entries.map (Entry.stamp version)) trail
    else table lead key gap pad entries trail
  | line => line

def stampRows (version : List Char) (before : List Row) : List Row → List Row
  | [] => []
  | row :: rest =>
    { row with line := row.line.stamp version before } ::
      stampRows version (before ++ [row]) rest

end ReleaseStamp.Manifest
