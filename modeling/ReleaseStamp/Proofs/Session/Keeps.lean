import ReleaseStamp.Proofs.Session

/-!
# What jobs leave alone

A view shows a part of a session, such as the records of one level or the calls that have been made.
Most jobs leave most views as they are, whether they succeed or fail.
-/
namespace ReleaseStamp.Job

variable {α β γ : Type} {view : Session → γ}

class Keeps (view : Session → γ) (job : Job α) : Prop where
  view_eq : ∀ session, view (job.perform session).2 = view session

theorem Keeps.of_perform {job : Job α} (hjob : Keeps view job) {session after : Session}
    {outcome : Except Error α} (h : job.perform session = (outcome, after)) :
    view after = view session := by
  rw [← hjob.view_eq session, h]

/-- The view shows neither the tree nor what is logged below the level info. -/
class Apart (view : Session → γ) : Prop where
  tree_eq : ∀ session tree, view { session with tree } = view session
  log_eq : ∀ (session : Session) (record : Log.Record), record.level ≠ .info →
    view { session with log := session.log ++ [record] } = view session

/-- The view shows neither the tree nor anything of the log, but what has been asked for. -/
class Aside (view : Session → γ) : Prop where
  tree_eq : ∀ session tree, view { session with tree } = view session
  log_eq : ∀ session log, view { session with log } = view session

instance [hview : Aside view] : Apart view where
  tree_eq := hview.tree_eq
  log_eq session record _ := hview.log_eq session (session.log ++ [record])

instance : Aside Session.calls := ⟨fun _ _ => rfl, fun _ _ => rfl⟩

instance : Aside Session.requests := ⟨fun _ _ => rfl, fun _ _ => rfl⟩

instance (value : α) : Keeps view (pure value : Job α) := ⟨fun _ => rfl⟩

instance (error : Error) : Keeps view (throw error : Job α) := ⟨fun _ => rfl⟩

instance : Keeps view (get : Job Session) := ⟨fun _ => rfl⟩

instance (result : Except Error α) : Keeps view (MonadExcept.ofExcept result : Job α) :=
  ⟨fun session => by rw [perform_ofExcept]⟩

theorem keeps_note [hview : Apart view] {level : Log.Level} (h : level ≠ .info)
    (speaker : Log.Speaker) (message : String) : Keeps view (note level speaker message) :=
  ⟨fun session => hview.log_eq session ⟨level, speaker, message⟩ h⟩

instance [Apart view] (speaker : Log.Speaker) (message : String) :
    Keeps view (note .debug speaker message) := keeps_note (by decide) speaker message

instance [Apart view] (speaker : Log.Speaker) (message : String) :
    Keeps view (note .warn speaker message) := keeps_note (by decide) speaker message

instance [hview : Aside view] (level : Log.Level) (speaker : Log.Speaker) (message : String) :
    Keeps view (note level speaker message) :=
  ⟨fun session => by rw [perform_note, hview.log_eq]⟩

instance (job : Job α) (next : α → Job β) [hjob : Keeps view job]
    [hnext : ∀ x, Keeps view (next x)] : Keeps view (job >>= next) := by
  refine ⟨fun session => ?_⟩
  have hfirst := hjob.view_eq session
  rw [perform_bind]
  cases hoff : job.perform session with
  | mk outcome after =>
    rw [hoff] at hfirst
    cases outcome with
    | error error => exact hfirst
    | ok x => exact ((hnext x).view_eq after).trans hfirst

instance (p : Prop) [Decidable p] (first second : Job α) [hfirst : Keeps view first]
    [hsecond : Keeps view second] : Keeps view (if p then first else second) := by
  split
  · exact hfirst
  · exact hsecond

theorem composes_keeps : Composes (Keeps view) where
  pure _ := inferInstance
  bind _ _ := inferInstance

instance (f : α → Job β) [hf : ∀ x, Keeps view (f x)] (xs : List α) : Keeps view (xs.mapM f) :=
  composes_keeps.mapM hf xs

instance (f : α → Job PUnit) [hf : ∀ x, Keeps view (f x)] (xs : List α) :
    Keeps view (xs.forM f) := composes_keeps.forM hf xs

instance (path : Path) : Keeps view (readText path) :=
  ⟨fun session => by rw [perform_readText]⟩

instance [hview : Apart view] (path : Path) (text : String) : Keeps view (writeText path text) := by
  refine ⟨fun session => ?_⟩
  rw [perform_writeText]
  obtain ⟨outcome, made⟩ := session.tree.prepare path
  cases outcome with
  | error fault => exact hview.tree_eq session made
  | ok =>
    simp only
    cases made.writeText path text with
    | error fault => exact hview.tree_eq session made
    | ok after => exact hview.tree_eq session after

/-- A job that has succeeded with what follows it has given what that started from. -/
theorem perform_bind_ok {job : Job α} {next : α → Job β} {session after : Session} {value : β} :
    (job >>= next).perform session = (.ok value, after) ↔ ∃ x between,
      job.perform session = (.ok x, between) ∧ (next x).perform between = (.ok value, after) := by
  rw [perform_bind]
  cases hjob : job.perform session with
  | mk outcome between =>
    cases outcome with
    | error error => simp
    | ok x =>
      simp only [Prod.mk.injEq, Except.ok.injEq]
      constructor
      · intro h
        exact ⟨x, between, ⟨rfl, rfl⟩, h⟩
      · rintro ⟨_, _, ⟨rfl, rfl⟩, h⟩
        exact h

end ReleaseStamp.Job
