import ReleaseStamp.FileTree.Resolve

/-!
# Reading and writing

Operations on a tree by path. An operation gives the tree that it leaves; only making a chain of
folders can fail half-way, so that alone gives a tree with its fault.
-/
namespace ReleaseStamp.FileTree

def pathExists (tree : FileTree) (path : Path) : Bool := (tree.find .look path).isOk

def isFolderPath (tree : FileTree) (path : Path) : Bool :=
  match tree.find .look path with
  | .ok (_, node) => node.isFolder
  | .error _ => false

def readBytes (tree : FileTree) (path : Path) : Except Fault ByteArray := do
  match ← tree.find .look path with
  | (_, .file bytes) => .ok bytes
  | (_, .folder _) => .error .isFolder
  | (_, .link _) => .error .missing

def readText (tree : FileTree) (path : Path) : Except Fault String := do
  match String.fromUTF8? (← tree.readBytes path) with
  | some text => .ok text
  | none => .error .notText

def writeBytes (tree : FileTree) (path : Path) (bytes : ByteArray) : Except Fault FileTree := do
  let target ← tree.resolve .write path
  match target.name, tree.root.get? target.place with
  | none, _ | _, some (.folder _) => .error .isFolder
  | _, _ =>
    if tree.sealed.contains target.place then .error .denied
    else .ok { tree with root := tree.root.put (.file bytes) target.place }

def writeText (tree : FileTree) (path : Path) (text : String) : Except Fault FileTree :=
  tree.writeBytes path text.toUTF8

def makeFolder (tree : FileTree) (path : Path) : Except Fault FileTree := do
  let target ← tree.resolve .make path
  match target.name, tree.root.get? target.place with
  | some _, none => .ok { tree with root := tree.root.put (.folder []) target.place }
  | _, _ => .error .occupied

/-- Makes a folder, after the folders above it if they are missing. The paths are the folder's and
those above it, upwards. -/
def makeFolders (tree : FileTree) : List Path → Except Fault Unit × FileTree
  | [] => (.error .missing, tree)
  | path :: above =>
    if path.isEmpty then (.ok (), tree)
    else match tree.makeFolder path with
      | .ok made => (.ok (), made)
      | .error .missing =>
        match tree.makeFolders above with
        | (.error fault, made) => (.error fault, made)
        | (.ok (), made) =>
          match made.makeFolder path with
          | .ok made => (.ok (), made)
          | .error fault => (if made.isFolderPath path then .ok () else .error fault, made)
      | .error fault => (if tree.isFolderPath path then .ok () else .error fault, tree)

def makePath (tree : FileTree) (path : Path) : Except Fault Unit × FileTree :=
  tree.makeFolders (Path.ancestors path)

end ReleaseStamp.FileTree
