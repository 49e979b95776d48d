import ReleaseStamp.Proofs.FileTree.Beside
import ReleaseStamp.Proofs.Session.Failure

/-!
# Two runs of a job

A job that is run in two trees that differ in one file, and does not read the file, ends with the
same outcome both times, be it a value or an error, and leaves trees that differ in that file only.
-/
namespace ReleaseStamp.Job

open FileTree (Place Beside IsRoute below)

variable {α β : Type} {path : Path} {base names other : Place} {a b : FileTree}

/-- Both runs end alike, and the trees that they leave differ in one file only. -/
def Agree (path : Path) (base names : Place) (job : Job α) (a b : FileTree) : Prop :=
  ∃ outcome a' b', job.effect a = (outcome, a') ∧ job.effect b = (outcome, b') ∧
    Beside path base names a' b'

theorem Agree.perform {job : Job α} [hjob : OnTree job] {first second : Session}
    (h : Agree path base names job first.tree second.tree) :
    (job.perform second).1 = (job.perform first).1 ∧ ∀ place, place ≠ base ++ names →
      (job.perform second).2.tree.root.contentAt place =
        (job.perform first).2.tree.root.contentAt place := by
  obtain ⟨outcome, a', b', ha, hb, hbeside⟩ := h
  obtain ⟨after, hfirst, rfl⟩ := perform_of_effect ha
  obtain ⟨after', hsecond, rfl⟩ := perform_of_effect hb
  rw [hfirst, hsecond]
  exact ⟨rfl, hbeside.same⟩

theorem agree_pure (h : Beside path base names a b) (value : α) :
    Agree path base names (pure value) a b := ⟨.ok value, a, b, rfl, rfl, h⟩

theorem agree_throw (h : Beside path base names a b) (error : Error) :
    Agree path base names (throw error : Job α) a b := ⟨.error error, a, b, rfl, rfl, h⟩

theorem agree_note (h : Beside path base names a b) (level : Log.Level) (speaker : Log.Speaker)
    (message : String) : Agree path base names (note level speaker message) a b :=
  ⟨.ok (), a, b, rfl, rfl, h⟩

/-- What follows a job has to agree only from where the job can lead. -/
theorem agree_bind {job : Job α} {next : α → Job β} [hnext : ∀ x, OnTree (next x)]
    (h : Agree path base names job a b)
    (hrest : ∀ x a' b', job.effect a = (.ok x, a') → Beside path base names a' b' →
      Agree path base names (next x) a' b') : Agree path base names (job >>= next) a b := by
  obtain ⟨outcome, a', b', ha, hb, hbeside⟩ := h
  cases outcome with
  | error error =>
    exact ⟨.error error, a', b', effect_bind_error.mpr (Or.inl ha),
      effect_bind_error.mpr (Or.inl hb), hbeside⟩
  | ok x =>
    obtain ⟨last, a'', b'', ha', hb', hlast⟩ := hrest x a' b' ha hbeside
    refine ⟨last, a'', b'', ?_, ?_, hlast⟩
    · cases last with
      | error error => exact effect_bind_error.mpr (Or.inr ⟨x, a', ha, ha'⟩)
      | ok value => exact effect_bind.mpr ⟨x, a', ha, ha'⟩
    · cases last with
      | error error => exact effect_bind_error.mpr (Or.inr ⟨x, b', hb, hb'⟩)
      | ok value => exact effect_bind.mpr ⟨x, b', hb, hb'⟩

theorem agree_mapM {f : α → Job β} [hf : ∀ x, OnTree (f x)]
    (hagree : ∀ x {a b}, Beside path base names a b → Agree path base names (f x) a b)
    (h : Beside path base names a b) (xs : List α) :
    Agree path base names (xs.mapM f) a b := by
  induction xs generalizing a b with
  | nil =>
    rw [List.mapM_nil]
    exact agree_pure h []
  | cons x xs ih =>
    rw [List.mapM_cons]
    refine agree_bind (hagree x h) fun y a' b' _ h' => ?_
    refine agree_bind (ih h') fun ys a'' b'' _ h'' => ?_
    exact agree_pure h'' (y :: ys)

theorem agree_readText (h : Beside path base names a b) (hroute : IsRoute other)
    (hother : other ≠ names) : Agree path base names (readText (below path other)) a b := by
  refine ⟨(a.readText (below path other)).mapError (faultAt (below path other)), a, b, ?_, ?_, h⟩
  · rw [effect, perform_readText]
  · rw [effect, perform_readText, h.readText hroute hother]

theorem agree_writeText (h : Beside path base names a b) (target : Path) (text : String) :
    Agree path base names (writeText target text) a b := by
  obtain ⟨houtcome, hmade⟩ := h.prepare target
  unfold Agree effect
  rw [perform_writeText, perform_writeText]
  generalize a.prepare target = first at houtcome hmade
  generalize b.prepare target = second at houtcome hmade
  obtain ⟨outcome, made⟩ := first
  obtain ⟨outcome', made'⟩ := second
  cases houtcome
  cases outcome with
  | error fault => exact ⟨_, made, made', rfl, rfl, hmade⟩
  | ok =>
    rcases hmade.writeText target text with ⟨fault, ha, hb⟩ | ⟨a', b', ha, hb, hwritten⟩
    · simp only [ha, hb]
      exact ⟨_, made, made', rfl, rfl, hmade⟩
    · simp only [ha, hb]
      exact ⟨.ok (), a', b', rfl, rfl, hwritten⟩

end ReleaseStamp.Job
