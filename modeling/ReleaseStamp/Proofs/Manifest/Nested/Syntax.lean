import ReleaseStamp.Manifest.Bump
import ReleaseStamp.Proofs.Manifest.Syntax
import ReleaseStamp.Toml.Quotation

/-!
# Lines of nested tables

The lines of a manifest whose value is made of inline tables: one, several in an array, or tables
in tables, with any quoted text in them and with a comment at the end. What a table has in it is
told by the tree, without the readers of the text.
-/
namespace ReleaseStamp.Manifest.Nested

open Text (isBlank)

inductive Quoted where
  /-- In double quotes, with escapes. -/
  | basic (body : List Char)
  /-- In single quotes, where each character stands for itself. -/
  | literal (body : List Char)
deriving DecidableEq, Repr

inductive Name where
  | bare (text : List Char)
  | quoted (text : Quoted)
deriving DecidableEq, Repr

inductive Key where
  | last (name : Name)
  | dotted (name : Name) (gap pad : List Char) (rest : Key)
deriving DecidableEq, Repr

/-- What stands before a value: blanks in an array, and a key with its sign in a table. -/
inductive Head where
  | item (lead : List Char)
  | entry (lead : List Char) (key : Key) (gap pad : List Char)
deriving DecidableEq, Repr

mutual

inductive Value where
  | quoted (text : Quoted)
  | scalar (word : List Char)
  | array (members : Members)
  | table (members : Members)

/-- What stands between two brackets. A comma may stand behind the last member. -/
inductive Members where
  | done (blanks : List Char)
  | last (head : Head) (value : Value) (trail : List Char)
  | more (head : Head) (value : Value) (trail : List Char) (rest : Members)

end

structure Line where
  lead : List Char
  key : Key
  gap : List Char
  pad : List Char
  value : Value
  trail : List Char
  /-- What follows the number sign of a comment. -/
  comment : Option (List Char)

def Quoted.body : Quoted → List Char
  | basic body => body
  | literal body => body

def Quoted.render : Quoted → List Char
  | basic body => '"' :: (body ++ ['"'])
  | literal body => '\'' :: (body ++ ['\''])

def Name.render : Name → List Char
  | bare text => text
  | quoted text => text.render

def Key.render : Key → List Char
  | last name => name.render
  | dotted name gap pad rest => name.render ++ (gap ++ '.' :: (pad ++ rest.render))

def Head.render : Head → List Char
  | item lead => lead
  | entry lead key gap pad => lead ++ (key.render ++ (gap ++ '=' :: pad))

mutual

def Value.render : Value → List Char
  | .quoted text => text.render
  | .scalar word => word
  | .array members => '[' :: (members.render ++ [']'])
  | .table members => '\x7b' :: (members.render ++ ['\x7d'])

def Members.render : Members → List Char
  | .done blanks => blanks
  | .last head value trail => head.render ++ (value.render ++ trail)
  | .more head value trail rest => head.render ++ (value.render ++ (trail ++ ',' :: rest.render))

end

def Line.render (line : Line) : List Char :=
  line.lead ++ (line.key.render ++ (line.gap ++ '=' :: (line.pad ++ (line.value.render ++
    (line.trail ++ commentText line.comment)))))

/-- In double quotes, a quote and a backslash stand behind a backslash. -/
def isEscaped : List Char → Bool
  | [] => true
  | '\\' :: _ :: rest => isEscaped rest
  | ['\\'] => false
  | c :: rest => c != '"' && isEscaped rest

def Quoted.Valid : Quoted → Prop
  | basic body => isEscaped body = true
  | literal body => '\'' ∉ body

def Name.Valid : Name → Prop
  | bare text => IsBareKey text
  | quoted text => text.Valid

def Key.Valid : Key → Prop
  | last name => name.Valid
  | dotted name gap pad rest => name.Valid ∧ Blanks gap ∧ Blanks pad ∧ rest.Valid

def Head.Valid (inTable : Bool) : Head → Prop
  | item lead => inTable = false ∧ Blanks lead
  | entry lead key gap pad =>
    inTable = true ∧ Blanks lead ∧ key.Valid ∧ Blanks gap ∧ Blanks pad

mutual

def Value.Valid : Value → Prop
  | .quoted text => text.Valid
  | .scalar word => IsScalar word
  | .array members => members.Valid false
  | .table members => members.Valid true

def Members.Valid (inTable : Bool) : Members → Prop
  | .done blanks => Blanks blanks
  | .last head value trail => head.Valid inTable ∧ value.Valid ∧ Blanks trail
  | .more head value trail rest =>
    head.Valid inTable ∧ value.Valid ∧ Blanks trail ∧ rest.Valid inTable

end

mutual

def Value.hasTable : Value → Bool
  | .quoted _ => false
  | .scalar _ => false
  | .array members => members.hasTable
  | .table _ => true

def Members.hasTable : Members → Bool
  | .done _ => false
  | .last _ value _ => value.hasTable
  | .more _ value _ rest => value.hasTable || rest.hasTable

end

structure Line.Valid (line : Line) : Prop where
  lead : Blanks line.lead
  key : line.key.Valid
  gap : Blanks line.gap
  pad : Blanks line.pad
  value : line.value.Valid
  table : line.value.hasTable = true
  trail : Blanks line.trail
  one_line : '\n' ∉ line.render

instance (text : Quoted) : Decidable text.Valid :=
  match text with
  | .basic _ => inferInstanceAs (Decidable (_ = true))
  | .literal _ => inferInstanceAs (Decidable (_ ∉ _))

instance (name : Name) : Decidable name.Valid :=
  match name with
  | .bare text => inferInstanceAs (Decidable (IsBareKey text))
  | .quoted text => inferInstanceAs (Decidable text.Valid)

def Key.decideValid : (key : Key) → Decidable key.Valid
  | last name => inferInstanceAs (Decidable name.Valid)
  | dotted name gap pad rest =>
    letI := rest.decideValid
    inferInstanceAs (Decidable (name.Valid ∧ Blanks gap ∧ Blanks pad ∧ rest.Valid))

instance (key : Key) : Decidable key.Valid := key.decideValid

instance (inTable : Bool) (head : Head) : Decidable (head.Valid inTable) :=
  match head with
  | .item _ => inferInstanceAs (Decidable (_ ∧ _))
  | .entry _ _ _ _ => inferInstanceAs (Decidable (_ ∧ _))

mutual

def Value.decideValid : (value : Value) → Decidable value.Valid
  | .quoted text => inferInstanceAs (Decidable text.Valid)
  | .scalar word => inferInstanceAs (Decidable (IsScalar word))
  | .array members => members.decideValid false
  | .table members => members.decideValid true

def Members.decideValid (inTable : Bool) : (members : Members) → Decidable (members.Valid inTable)
  | .done blanks => inferInstanceAs (Decidable (Blanks blanks))
  | .last head value trail =>
    letI := value.decideValid
    inferInstanceAs (Decidable (head.Valid inTable ∧ value.Valid ∧ Blanks trail))
  | .more head value trail rest =>
    letI := value.decideValid
    letI := rest.decideValid inTable
    inferInstanceAs (Decidable
      (head.Valid inTable ∧ value.Valid ∧ Blanks trail ∧ rest.Valid inTable))

end

instance (value : Value) : Decidable value.Valid := value.decideValid

instance (line : Line) : Decidable line.Valid :=
  decidable_of_iff (Blanks line.lead ∧ line.key.Valid ∧ Blanks line.gap ∧ Blanks line.pad ∧
      line.value.Valid ∧ line.value.hasTable = true ∧ Blanks line.trail ∧ '\n' ∉ line.render)
    ⟨fun ⟨lead, key, gap, pad, value, table, trail, one_line⟩ =>
      ⟨lead, key, gap, pad, value, table, trail, one_line⟩,
      fun ⟨lead, key, gap, pad, value, table, trail, one_line⟩ =>
        ⟨lead, key, gap, pad, value, table, trail, one_line⟩⟩

/-- The text that is quoted, with its escapes resolved. -/
def Quoted.text : Quoted → List Char
  | basic body =>
    match Toml.Quotation.scan ⟨true, false, 0⟩ .plain [] (Toml.placed 0 (body ++ ['"'])) with
    | .ok (text, _) => text.reverse
    | .error _ => body
  | literal body => body

def Name.text : Name → List Char
  | bare text => text
  | quoted text => text.text

def Key.first : Key → Name
  | last name => name
  | dotted name _ _ _ => name

def Name.bodies : Name → List (List Char)
  | bare _ => []
  | quoted text => [text.body]

def Key.bodies : Key → List (List Char)
  | last name => name.bodies
  | dotted name _ _ rest => name.bodies ++ rest.bodies

def Head.bodies : Head → List (List Char)
  | item _ => []
  | entry _ key _ _ => key.bodies

def Head.keys : Head → List Key
  | item _ => []
  | entry _ key _ _ => [key]

mutual

def Value.keys : Value → List Key
  | .quoted _ => []
  | .scalar _ => []
  | .array members => members.keys
  | .table members => members.keys

def Members.keys : Members → List Key
  | .done _ => []
  | .last head value _ => head.keys ++ value.keys
  | .more head value _ rest => head.keys ++ (value.keys ++ rest.keys)

end

mutual

def Value.bodies : Value → List (List Char)
  | .quoted text => [text.body]
  | .scalar _ => []
  | .array members => members.bodies
  | .table members => members.bodies

def Members.bodies : Members → List (List Char)
  | .done _ => []
  | .last head value _ => head.bodies ++ value.bodies
  | .more head value _ rest => head.bodies ++ (value.bodies ++ rest.bodies)

end

/-- A brace or a comma, and then a key `path` with its sign. -/
def LooksLikePath (text : List Char) : Prop :=
  ∃ front mark lead gap rest, opensKey mark = true ∧ Blanks lead ∧ Blanks gap ∧
    text = front ++ mark :: (lead ++ (pathKey ++ (gap ++ '=' :: rest)))

def Mentions (keys : List Key) (texts : List (List Char)) : Prop :=
  .last (.bare pathKey) ∈ keys ∨ ∃ text ∈ texts, LooksLikePath text

/-- A table of the line has a key `path`, or a quoted text or the comment looks as if. -/
def Line.MentionsPath (line : Line) : Prop :=
  Mentions line.value.keys
    (line.key.bodies ++ (line.value.bodies ++ line.comment.toList))

/-- A key that sets a `version`, as it is written, and what it is set to. -/
abbrev Requirement := Name × Quoted

def Head.requirement : Head → Value → List Requirement
  | entry _ (.last name) _ _, .quoted text => if name.text = versionKey then [(name, text)] else []
  | _, _ => []

def Members.requirements : Members → List Requirement
  | .done _ => []
  | .last head value _ => head.requirement value
  | .more head value _ rest => head.requirement value ++ rest.requirements

def Head.isPath : Head → Bool
  | item _ => false
  | entry _ key _ _ => key.first.text == pathKey

def Members.hasPath : Members → Bool
  | .done _ => false
  | .last head _ _ => head.isPath
  | .more head _ _ rest => head.isPath || rest.hasPath

mutual

/-- The versions of the tables without a path of their own. -/
def Value.pathless : Value → List Requirement
  | .quoted _ => []
  | .scalar _ => []
  | .array members => members.pathless
  | .table members => (if members.hasPath then [] else members.requirements) ++ members.pathless

def Members.pathless : Members → List Requirement
  | .done _ => []
  | .last _ value _ => value.pathless
  | .more _ value _ rest => value.pathless ++ rest.pathless

end

/-- Behind a backslash a quote opens nothing, so that only what stands in single quotes can look
like a version. -/
def Quoted.stamp (version : List Char) : Quoted → Quoted
  | basic body => basic body
  | literal body => literal (setInlineVersions version body)

def Name.stamp (version : List Char) : Name → Name
  | bare text => bare text
  | quoted text => quoted (text.stamp version)

def Key.stamp (version : List Char) : Key → Key
  | last name => last (name.stamp version)
  | dotted name gap pad rest => dotted (name.stamp version) gap pad (rest.stamp version)

def Head.stamp (version : List Char) : Head → Head
  | item lead => item lead
  | entry lead key gap pad => entry lead (key.stamp version) gap pad

def Head.setsVersion : Head → Value → Bool
  | entry _ (.last (.bare text)) _ _, .quoted (.basic body) =>
    text == versionKey && isVersion body
  | _, _ => false

mutual

def Value.stamp (version : List Char) : Value → Value
  | .quoted text => .quoted (text.stamp version)
  | .scalar word => .scalar word
  | .array members => .array (members.stamp version)
  | .table members => .table (members.stamp version)

def Members.stamp (version : List Char) : Members → Members
  | .done blanks => .done blanks
  | .last head value trail => .last (head.stamp version)
      (if head.setsVersion value then .quoted (.basic version) else value.stamp version) trail
  | .more head value trail rest => .more (head.stamp version)
      (if head.setsVersion value then .quoted (.basic version) else value.stamp version) trail
      (rest.stamp version)

end

def Line.stamp (version : List Char) (line : Line) : Line :=
  { line with
    key := line.key.stamp version
    value := line.value.stamp version
    comment := line.comment.map (setInlineVersions version) }

def Requirement.stamp (version : List Char) : Requirement → Requirement
  | (.bare name, .basic body) => (.bare name, .basic (if IsVersion body then version else body))
  | (name, text) => (name.stamp version, text.stamp version)

end ReleaseStamp.Manifest.Nested
