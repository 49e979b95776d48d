import ReleaseStamp.Error
import ReleaseStamp.FileTree.Access
import ReleaseStamp.Http.Client
import ReleaseStamp.Log

/-!
# Sessions and jobs

A session is what the steps of a run share: the tree of files, the records logged, the checksums
asked for and the requests made. A job is a step that may fail; what it has done before it fails
stays done.
-/
namespace ReleaseStamp

structure Session where
  tree : FileTree
  log : List Log.Record := []
  /-- The checksums asked for, each as a version and a target. -/
  calls : List (String × String) := []
  requests : List Http.Request := []
deriving Inhabited

abbrev Job := ExceptT Error (StateM Session)

namespace Job

/-- What a job gives when it starts from a session, and the session that it leaves. -/
def perform {α : Type} (job : Job α) (session : Session) : Except Error α × Session :=
  (ExceptT.run job).run session

@[simp]
theorem perform_pure {α : Type} (value : α) (session : Session) :
    (pure value : Job α).perform session = (.ok value, session) := rfl

@[simp]
theorem perform_throw {α : Type} (error : Error) (session : Session) :
    (throw error : Job α).perform session = (.error error, session) := rfl

/-- A job that follows starts where the first one ends, and does not start after an error. -/
theorem perform_bind {α β : Type} (job : Job α) (next : α → Job β) (session : Session) :
    (job >>= next).perform session = match job.perform session with
      | (.ok value, after) => (next value).perform after
      | (.error error, after) => (.error error, after) := by
  simp only [perform, ExceptT.run_bind, StateT.run_bind]
  generalize StateT.run (ExceptT.run job) session = outcome
  obtain ⟨_ | _, _⟩ := outcome <;> rfl

def note (level : Log.Level) (speaker : Log.Speaker) (message : String) : Job Unit :=
  modify fun session => { session with log := session.log ++ [⟨level, speaker, message⟩] }

@[simp]
theorem perform_note (level : Log.Level) (speaker : Log.Speaker) (message : String)
    (session : Session) :
    (note level speaker message).perform session
      = (.ok (), { session with log := session.log ++ [⟨level, speaker, message⟩] }) := rfl

def faultAt (path : Path) (fault : FileTree.Fault) : Error :=
  .file (path.shown ++ ": " ++ fault.message)

def access {α : Type} (path : Path) (result : Except FileTree.Fault α) : Job α :=
  MonadExcept.ofExcept (result.mapError (faultAt path))

def readText (path : Path) : Job String := do
  access path ((← get).tree.readText path)

/-- Makes the folder that a file is to lie in, unless something is there. -/
def prepareFolder (path : Path) : Job Unit := do
  match Path.parent? path with
  | none => return
  | some folder =>
    let session ← get
    if folder.isEmpty || session.tree.pathExists folder then return
    let (outcome, tree) := session.tree.makePath folder
    set { session with tree }
    access folder outcome

/-- Writes a file in place of what was there, and makes the folders above it that are missing. -/
def writeText (path : Path) (text : String) : Job Unit := do
  prepareFolder path
  let session ← get
  let tree ← access path (session.tree.writeText path text)
  set { session with tree }

end Job

end ReleaseStamp
