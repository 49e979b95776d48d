import ReleaseStamp.FileTree.Access

/-!
# The manifests of a tree

A walk visits the children of each folder in the order of their names, each followed by what is
below it. Links are not followed, and neither build output nor hidden folders are entered, whatever
the folder that the walk starts from is called. Every folder is opened by its whole path.
-/
namespace ReleaseStamp.FileTree

def manifestName : Path := "Cargo.toml"

/-- Folders of build output and hidden folders, as far as their names are texts. -/
def isSkipped (name : Path) : Bool :=
  name.text?.any fun text => text == "target" || text.toList.head? == some '.'

def isPathTooLong (path : Path) : Bool := 4096 ≤ path.bytes.length

abbrev Encounter := Except (Path × Fault) Path

mutual

def walkAt (path name : Path) : Node → List Encounter
  | .file _ => if name = manifestName then [.ok path] else []
  | .link _ => []
  | .folder children =>
    if isSkipped name then []
    else if isPathTooLong path then [.error (path, .nameTooLong)]
    else walkIn path children

def walkIn (path : Path) : List (Path × Node) → List Encounter
  | [] => []
  | (name, node) :: rest => walkAt (Path.join path name) name node ++ walkIn path rest

end

/-- What a walk from `path` comes across. A link at the start is followed to a folder, but is no
manifest itself. -/
def walk (tree : FileTree) (path : Path) : List Encounter :=
  match tree.find .inspect path with
  | .error fault => [.error (path, fault)]
  | .ok (_, .file _) =>
    if (Path.fileName? path).getD path = manifestName then [.ok path] else []
  | .ok (_, .folder children) => walkIn path children
  | .ok (_, .link _) =>
    match tree.find .look path with
    | .error fault => [.error (path, fault)]
    | .ok (_, .folder children) => walkIn path children
    | .ok _ => []

end ReleaseStamp.FileTree
