import ReleaseStamp.CommandLine.Run
import ReleaseStamp.FileTree.Listing

/-!
# The program

The program reads the folders that its arguments name, runs on them as a tree, and writes what has
changed. It has no connection to any network.
-/
namespace ReleaseStamp.Program

open FileTree (Node Place)

/-- Reads a folder with all below it. Links are kept as links to where they lead; those that lead
nowhere are left out. -/
partial def readFolder (path : String) : IO Node := do
  let mut children : List (Path × Node) := []
  for entry in ← (← IO.FS.realPath path).readDir do
    let child := entry.path.toString
    match (← entry.path.symlinkMetadata).type with
    | .dir => children := Node.putChild entry.fileName (← readFolder child) children
    | .file =>
      children := Node.putChild entry.fileName (.file (← IO.FS.readBinFile child)) children
    | .symlink =>
      try
        let target ← IO.FS.realPath child
        children := Node.putChild entry.fileName (.link target.toString) children
      catch _ => pure ()
    | .other => pure ()
  return .folder children

def mount (node : Node) (root : Node) : Place → Node
  | [] => node
  | name :: rest =>
    let children := match root with
      | .folder children => children
      | _ => []
    .folder (Node.putChild name
      (mount node ((children.lookup name).getD (.folder [])) rest) children)

def namedFolders (arguments : List String) : List String :=
  match CommandLine.Request.ofArguments arguments with
  | .work options =>
    let above := (options.config.bind fun path => Path.parent? path).filter (!·.isEmpty)
    ["."] ++ [options.dir] ++ (above.map Path.shown).toList
  | _ => []

def readTree (arguments : List String) : IO FileTree := do
  let here := Path.steps (← IO.currentDir).toString
  let mut root : Node := mount (.folder []) (.folder []) here
  for folder in namedFolders arguments do
    let real? ← try pure (some (← IO.FS.realPath folder)) catch _ => pure none
    if let some real := real? then
      if ← real.isDir then
        root := mount (← readFolder real.toString) root (Path.steps real.toString)
  return { root, here }

def writeChanges (before after : FileTree) : IO Unit := do
  let changes := FileTree.changes { before with here := [] } { after with here := [] }
  for (place, content) in changes.written do
    let path := "/" ++ String.intercalate "/" (place.map Path.shown)
    match content with
    | .file bytes => IO.FS.writeBinFile path bytes
    | .folder => IO.FS.createDirAll path
    | .link _ => pure ()

end ReleaseStamp.Program

open ReleaseStamp in
def main (arguments : List String) : IO UInt32 := do
  let tree ← Program.readTree arguments
  let (ending, session) := CommandLine.run Http.Network.silent arguments tree
  match ending with
  | .misuse =>
    IO.eprintln "error: the arguments are not understood; see --help"
    return 1
  | .finished exit output errors =>
    Program.writeChanges tree session.tree
    IO.print output
    IO.eprint errors
    return exit.toUInt32
