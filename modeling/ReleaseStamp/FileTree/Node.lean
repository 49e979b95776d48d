import ReleaseStamp.Path

/-!
# The nodes of a file tree

A node is a file, a symbolic link or a folder. The children of a folder are kept in the order of
their names. A place in a tree is the list of names that lead to it from the root; links are nodes
like any other here and are not followed.
-/
namespace ReleaseStamp.FileTree

inductive Node where
  | file (bytes : ByteArray)
  | link (target : Path)
  | folder (children : List (Path × Node))
deriving Inhabited

abbrev Place := List Path

namespace Node

def putChild (name : Path) (node : Node) : List (Path × Node) → List (Path × Node)
  | [] => [(name, node)]
  | (other, child) :: rest =>
    if name = other then (name, node) :: rest
    else if name < other then (name, node) :: (other, child) :: rest
    else (other, child) :: putChild name node rest

def dropChild (name : Path) (children : List (Path × Node)) : List (Path × Node) :=
  children.filter (·.1 != name)

def get? : Node → Place → Option Node
  | node, [] => some node
  | folder children, name :: rest => (children.lookup name).bind (·.get? rest)
  | _, _ :: _ => none
termination_by structural _ place => place

/-- Puts a new node at a place. All but the last name must lead through folders. -/
def put : Node → Node → Place → Node
  | _, new, [] => new
  | folder children, new, [name] => folder (putChild name new children)
  | folder children, new, name :: rest =>
    match children.lookup name with
    | some child => folder (putChild name (put child new rest) children)
    | none => folder children
  | node, _, _ :: _ => node
termination_by structural _ _ place => place

def erase : Node → Place → Node
  | folder children, [name] => folder (dropChild name children)
  | folder children, name :: rest =>
    match children.lookup name with
    | some child => folder (putChild name (erase child rest) children)
    | none => folder children
  | node, _ => node
termination_by structural _ place => place

def isFolder : Node → Bool
  | folder _ => true
  | _ => false

theorem lookup_putChild (name other : Path) (node : Node) (children : List (Path × Node)) :
    (putChild name node children).lookup other
      = if other = name then some node else children.lookup other := by
  induction children with
  | nil =>
    by_cases same : other = name
    · simp [putChild, same]
    · simp [putChild, same, List.lookup_cons, beq_eq_false_iff_ne.2 same]
  | cons head rest ih =>
    obtain ⟨here, child⟩ := head
    unfold putChild
    split
    · rename_i h
      subst h
      by_cases same : other = name
      · simp [same]
      · simp [same, List.lookup_cons, beq_eq_false_iff_ne.2 same]
    · split
      · by_cases same : other = name
        · simp [same]
        · simp [same, List.lookup_cons, beq_eq_false_iff_ne.2 same]
      · rename_i differs _
        by_cases at_here : other = here
        · subst at_here
          simp [Ne.symm differs]
        · simp [List.lookup_cons, beq_eq_false_iff_ne.2 at_here, ih]

end Node

end ReleaseStamp.FileTree
