import ReleaseStamp.FileTree.Fault
import ReleaseStamp.FileTree.Node

/-!
# Where a path leads

A path is followed name by name from the root or from the current folder. Every link on the way is
followed; whether a link at the end is, and what a slash at the end asks for, depends on the
purpose. At most forty links are followed.
-/
namespace ReleaseStamp

/-- A tree of files and the folder that relative paths start from. At a sealed place no file can be
written, whether there is one to be read or not. -/
structure FileTree where
  root : FileTree.Node := .folder []
  here : FileTree.Place := []
  sealed : List FileTree.Place := []
deriving Inhabited

namespace FileTree

inductive Purpose where
  /-- To look at what is there. -/
  | look
  /-- To look at what is there, without following a link at the end. -/
  | inspect
  /-- To write a file. -/
  | write
  /-- To make a folder. -/
  | make
deriving DecidableEq, Repr

def Purpose.follows (purpose : Purpose) (slash : Bool) : Bool :=
  match purpose with
  | look | write => true
  | inspect => slash
  | make => false

inductive Approach where
  /-- The path names a folder by points or by the root. -/
  | folder (place : Place)
  /-- One name is left, to be looked for in a folder. -/
  | last (place : Place) (name : Path)
  /-- A link in a folder stands before the rest of the names. -/
  | detour (place : Place) (target : Path) (rest : List Path)
  | failed (fault : Fault)

def isTooLong (name : Path) : Bool := 255 < name.bytes.length

def approach (root : Node) (place : Place) : List Path → Approach
  | [] => .folder place
  | name :: rest =>
    if name = "." then approach root place rest
    else if name = ".." then approach root place.dropLast rest
    else if rest.isEmpty then .last place name
    else if isTooLong name then .failed .nameTooLong
    else match root.get? (place ++ [name]) with
      | none => .failed .missing
      | some (.file _) => .failed .notFolder
      | some (.link target) => .detour place target rest
      | some (.folder _) => approach root (place ++ [name]) rest

/-- The end of a path: a folder and, unless the path is the folder itself, a name in it. -/
structure Target where
  folder : Place
  name : Option Path
  /-- Does the path ask for a folder by a slash at its end? -/
  slash : Bool
deriving DecidableEq, Repr

def Target.place (target : Target) : Place := target.folder ++ target.name.toList

def startOf (place : Place) (target : Path) : Place :=
  if Path.isAbsolute target then [] else place

def follow (root : Node) (purpose : Purpose) :
    Nat → Place → List Path → Bool → Except Fault Target
  | links, place, names, slash =>
    match approach root place names with
    | .failed fault => .error fault
    | .folder place => .ok ⟨place, none, slash⟩
    | .detour place target rest =>
      match links with
      | 0 => .error .tooManyLinks
      | links + 1 =>
        follow root purpose links (startOf place target) (Path.steps target ++ rest) slash
    | .last place name =>
      if purpose = .write && slash then .error .isFolder
      else if isTooLong name then .error .nameTooLong
      else match root.get? (place ++ [name]) with
        | some (.link target) =>
          if purpose.follows slash then
            match links with
            | 0 => .error .tooManyLinks
            | links + 1 =>
              follow root purpose links (startOf place target) (Path.steps target)
                (slash || Path.endsWithSlash target)
          else .ok ⟨place, some name, slash⟩
        | _ => .ok ⟨place, some name, slash⟩

def resolve (tree : FileTree) (purpose : Purpose) (path : Path) : Except Fault Target :=
  if path.bytes.contains 0 then .error .nulInPath
  else if path.isEmpty then .error .missing
  else if 4096 ≤ path.bytes.length then .error .nameTooLong
  else follow tree.root purpose 40 (startOf tree.here path) (Path.steps path)
    (Path.endsWithSlash path)

def find (tree : FileTree) (purpose : Purpose) (path : Path) : Except Fault (Place × Node) := do
  let target ← tree.resolve purpose path
  match tree.root.get? target.place with
  | none => .error .missing
  | some node =>
    if target.slash && !node.isFolder then .error .notFolder else .ok (target.place, node)

end FileTree

end ReleaseStamp
