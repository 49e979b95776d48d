import ReleaseStamp.Toml.Section

/-!
# The tree of a document

The sections of a document make one tree: the root table holds the entries without a header and the
tables that headers name. The tree is read in the order of the document, except that all sections of
a table are read where the first of them stands. Where headers contradict each other the tree ends
with a fault, which counts only for a reader that gets there.
-/
namespace ReleaseStamp.Toml

inductive Node where
  | value (value : Value)
  | table (entries : List (String × Node)) (fault : Option Fault)
  /-- An array of tables. -/
  | tables (elements : List Node)
deriving Repr, Inhabited

namespace Node

abbrev Contents := List (String × Node) × Option Fault

abbrev Unread := Array Bool

def sectionAt (sections : Array Section) (index : Nat) : Section := sections[index]?.getD {}

/-- The first unread section from `from` to `stop` whose header begins with `key`. -/
def nextUnread? (sections : Array Section) (unread : Unread) (key : List String)
    (start stop : Nat) : Option Nat :=
  (List.range' start (stop - start)).find? fun index =>
    unread[index]?.getD false && key.isPrefixOf (sectionAt sections index).header

def nextElement (sections : Array Section) (index stop : Nat) : Nat :=
  let header := (sectionAt sections index).header
  ((List.range' (index + 1) (stop - (index + 1))).find? fun other =>
    let candidate := sectionAt sections other
    candidate.isElement && candidate.header == header).getD stop

def takeEntries (sections : Array Section) (index : Nat) :
    StateM Unread (List (String × Node)) := do
  let unread ← get
  set (unread.setIfInBounds index false)
  if unread[index]?.getD false then
    return (sectionAt sections index).entries.map fun (key, entry) => (key, .value entry)
  else return []

mutual

/-- The contents of the table that the first `depth` parts of the header of the section `parent`
name, from the section `start` to `stop`; `count` bounds the steps. -/
def contents (sections : Array Section) : Nat → Nat → Nat → Nat → Nat → StateM Unread Contents
  | 0, _, _, _, _ => return ([], none)
  | count + 1, depth, parent, start, stop => do
    if parent = stop || start = stop then return ([], none)
    let above := sectionAt sections parent
    match nextUnread? sections (← get) (above.header.take depth) start stop with
    | none => return ([], none)
    | some index =>
      let found := sectionAt sections index
      if parent ≠ index && above.header == found.header then
        return ([], some { problem := .repeatedTable (String.intercalate "." found.header)
                           offset := some found.start })
      let parent :=
        if parent ≠ index && found.header.length < above.header.length then index else parent
      match found.header[depth]? with
      | some key =>
        let node ←
          if found.isElement && depth + 1 == found.header.length then
            pure (Node.tables (← elements sections count depth index stop))
          else
            let (entries, fault) ← contents sections count (depth + 1) index 0 stop
            pure (Node.table entries fault)
        let (others, fault) ← contents sections count depth parent (index + 1) stop
        return ((key, node) :: others, fault)
      | none =>
        if found.isElement then
          return ([], some { problem := .tableAsArray, offset := some found.start })
        let entries ← takeEntries sections index
        let (others, fault) ← contents sections count depth parent index stop
        return (entries ++ others, fault)

def elements (sections : Array Section) : Nat → Nat → Nat → Nat → StateM Unread (List Node)
  | 0, _, _, _ => return []
  | count + 1, depth, index, stop => do
    if index = stop then return []
    let next := nextElement sections index stop
    let entries ← takeEntries sections index
    let (others, fault) ← contents sections count (depth + 1) index 0 next
    return .table (entries ++ others) fault :: (← elements sections count depth next stop)

end

def greatestDepth (sections : List Section) : Nat :=
  sections.foldl (fun depth part => max depth part.header.length) 0

/-- A bound on the steps down into the tree: each goes on to a later section or to a deeper
table. -/
def stepBound (sections : List Section) : Nat :=
  2 * (sections.length + 1) * (greatestDepth sections + 2)

def ofSections (sections : List Section) : Node :=
  let unread := Array.replicate sections.length true
  let ((entries, fault), _) :=
    (contents sections.toArray (stepBound sections) 0 0 0 sections.length).run unread
  .table entries fault

mutual

def check : Node → Except Fault Unit
  | value _ => .ok ()
  | table entries fault => do
    checkEntries entries
    match fault with
    | some fault => .error fault
    | none => .ok ()
  | tables elements => checkElements elements

def checkEntries : List (String × Node) → Except Fault Unit
  | [] => .ok ()
  | (key, node) :: rest => do
    (check node).mapError (Fault.under key)
    checkEntries rest

def checkElements : List Node → Except Fault Unit
  | [] => .ok ()
  | node :: rest => do
    check node
    checkElements rest

end

end Node

end ReleaseStamp.Toml
