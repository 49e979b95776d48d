import ReleaseStamp.Proofs.Session.Keeps

/-!
# Jobs and the world

What is seen of a session from outside are its files and the requests that it has made. The log and
the list of the checksums asked for are written and never read, so that they have no part in what a
job gives or does to the world.
-/
namespace ReleaseStamp

def Session.world (session : Session) : FileTree × List Http.Request :=
  (session.tree, session.requests)

namespace Job

variable {α β : Type}

def seen (job : Job α) (session : Session) : Except Error α × FileTree × List Http.Request :=
  ((job.perform session).1, (job.perform session).2.world)

class OnWorld (job : Job α) : Prop where
  seen_eq : ∀ first second : Session, first.world = second.world →
    job.seen first = job.seen second

theorem seen_of_perform {job : Job α} {session after : Session} {outcome : Except Error α}
    (h : job.perform session = (outcome, after)) : job.seen session = (outcome, after.world) := by
  rw [seen, h]

/-- A job that depends on the tree only, and makes no request. -/
instance (priority := low) onWorld_of_onTree (job : Job α) [htree : OnTree job]
    [hkeeps : Keeps Session.requests job] : OnWorld job := by
  refine ⟨fun first second h => ?_⟩
  obtain ⟨htrees, hrequests⟩ := Prod.mk.inj h
  have hfirst := htree.perform_eq first
  rw [htrees, ← htree.perform_eq second] at hfirst
  obtain ⟨houtcome, hafter⟩ := Prod.mk.inj hfirst
  simp only [seen, Session.world, houtcome, hafter, hkeeps.view_eq, hrequests]

/-- What follows a job starts from the world that the job leaves. -/
theorem seen_bind {job : Job α} {next : α → Job β} {session after : Session} {value : α}
    (h : job.perform session = (.ok value, after)) :
    (job >>= next).seen session = (next value).seen after := by
  simp only [seen, perform_bind, h]

instance (job : Job α) (next : α → Job β) [hjob : OnWorld job] [hnext : ∀ x, OnWorld (next x)] :
    OnWorld (job >>= next) := by
  refine ⟨fun first second h => ?_⟩
  have hstart := hjob.seen_eq first second h
  cases hfirst : job.perform first with
  | mk outcome after =>
    cases hsecond : job.perform second with
    | mk outcome' after' =>
      rw [seen_of_perform hfirst, seen_of_perform hsecond, Prod.mk.injEq] at hstart
      obtain ⟨rfl, hafter⟩ := hstart
      cases outcome with
      | error error => simp only [seen, perform_bind, hfirst, hsecond, hafter]
      | ok x =>
        rw [seen_bind hfirst, seen_bind hsecond]
        exact (hnext x).seen_eq after after' hafter

theorem composes_onWorld : Composes OnWorld where
  pure _ := inferInstance
  bind _ _ := inferInstance

instance (f : α → Job β) [hf : ∀ x, OnWorld (f x)] (xs : List α) : OnWorld (xs.mapM f) :=
  composes_onWorld.mapM hf xs

/-- An error is handled in the session that the job has left. -/
theorem perform_tryCatch (job : Job α) (handler : Error → Job α) (session : Session) :
    (tryCatch job handler).perform session = match job.perform session with
      | (.ok value, after) => (.ok value, after)
      | (.error error, after) => (handler error).perform after := by
  simp only [perform, ExceptT.run, tryCatch, tryCatchThe, MonadExceptOf.tryCatch, ExceptT.tryCatch,
    ExceptT.mk, StateT.run_bind]
  generalize StateT.run job session = outcome
  obtain ⟨_ | _, _⟩ := outcome <;> rfl

theorem perform_discard (job : Job α) (session : Session) : (discard job).perform session =
    ((job.perform session).1.map fun _ => (), (job.perform session).2) := by
  rw [show discard job = job >>= fun _ => pure () from rfl, perform_bind]
  cases job.perform session with
  | mk outcome after => cases outcome <;> rfl

end Job

end ReleaseStamp
