import ReleaseStamp.FileTree.Resolve

/-!
# Listings and changes

A listing names every node below a folder with what it holds itself. Two listings show what has
changed between two trees.
-/
namespace ReleaseStamp.FileTree

inductive Content where
  | file (bytes : ByteArray)
  | link (target : Path)
  | folder

instance : DecidableEq Content
  | .file bytes, .file bytes' =>
    if h : bytes.data = bytes'.data then isTrue (congrArg Content.file (ByteArray.ext h))
    else isFalse fun same => h (congrArg ByteArray.data (Content.file.inj same))
  | .link target, .link target' =>
    if h : target = target' then isTrue (congrArg Content.link h)
    else isFalse fun same => h (Content.link.inj same)
  | .folder, .folder => isTrue rfl
  | .file _, .link _ | .file _, .folder => isFalse (by simp)
  | .link _, .file _ | .link _, .folder => isFalse (by simp)
  | .folder, .file _ | .folder, .link _ => isFalse (by simp)

def Node.content : Node → Content
  | .file bytes => .file bytes
  | .link target => .link target
  | .folder _ => .folder

mutual

def listingAt (place : Place) : Node → List (Place × Content)
  | .file bytes => [(place, .file bytes)]
  | .link target => [(place, .link target)]
  | .folder children => (place, .folder) :: listingIn place children

def listingIn (place : Place) : List (Path × Node) → List (Place × Content)
  | [] => []
  | (name, node) :: rest => listingAt (place ++ [name]) node ++ listingIn place rest

end

def listing (tree : FileTree) : List (Place × Content) :=
  match tree.root.get? tree.here with
  | some (.folder children) => listingIn [] children
  | _ => []

/-- The places at which two trees differ: with the new content, or with the old one and nothing
new. -/
structure Changes where
  written : List (Place × Content)
  gone : List (Place × Content)

def changes (before after : FileTree) : Changes where
  written := after.listing.filter fun (place, content) =>
    before.listing.lookup place != some content
  gone := before.listing.filter fun (place, content) =>
    match after.listing.lookup place with
    | none => true
    | some now => (now == .folder) != (content == .folder)

end ReleaseStamp.FileTree
