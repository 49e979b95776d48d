import ReleaseStamp.Proofs.FileTree.Save
import ReleaseStamp.Session

/-!
# Jobs on trees

Most jobs depend on the tree of their session only: the log and the records of what has been asked
for are written, and never read. Such a job is a function of trees.
-/
namespace ReleaseStamp.Job

variable {α β : Type}

/-- What a job gives, and the tree that it leaves. -/
def effect (job : Job α) (tree : FileTree) : Except Error α × FileTree :=
  ((job.perform { tree }).1, (job.perform { tree }).2.tree)

/-- The job depends on the tree only. -/
class OnTree (job : Job α) : Prop where
  perform_eq : ∀ session,
    ((job.perform session).1, (job.perform session).2.tree) = job.effect session.tree

@[simp]
theorem perform_get (session : Session) :
    (get : Job Session).perform session = (.ok session, session) := rfl

theorem perform_get_bind (next : Session → Job α) (session : Session) :
    (get >>= next).perform session = (next session).perform session := by
  rw [perform_bind, perform_get]

@[simp]
theorem perform_set (next session : Session) :
    (set next : Job PUnit).perform session = (.ok ⟨⟩, next) := rfl

@[simp]
theorem perform_modify (f : Session → Session) (session : Session) :
    (modify f : Job PUnit).perform session = (.ok ⟨⟩, f session) := rfl

@[simp]
theorem perform_ofExcept (result : Except Error α) (session : Session) :
    (MonadExcept.ofExcept result : Job α).perform session = (result, session) := by
  cases result <;> rfl

@[simp]
theorem perform_access (path : Path) (result : Except FileTree.Fault α) (session : Session) :
    (access path result).perform session = (result.mapError (faultAt path), session) :=
  perform_ofExcept _ session

instance (value : α) : OnTree (pure value : Job α) := ⟨fun _ => rfl⟩

instance (error : Error) : OnTree (throw error : Job α) := ⟨fun _ => rfl⟩

instance (level : Log.Level) (speaker : Log.Speaker) (message : String) :
    OnTree (note level speaker message) := ⟨fun _ => rfl⟩

instance (result : Except Error α) : OnTree (MonadExcept.ofExcept result : Job α) :=
  ⟨fun session => by simp only [effect, perform_ofExcept]⟩

instance (job : Job α) (next : α → Job β) [hjob : OnTree job] [hnext : ∀ x, OnTree (next x)] :
    OnTree (job >>= next) := by
  refine ⟨fun session => ?_⟩
  have hstart := hjob.perform_eq session
  simp only [effect, perform_bind] at hstart ⊢
  cases hfirst : job.perform session with
  | mk outcome after =>
    cases hsecond : job.perform { tree := session.tree } with
    | mk outcome' after' =>
      rw [hfirst, hsecond, Prod.mk.injEq] at hstart
      obtain ⟨rfl, htree⟩ := hstart
      cases outcome with
      | error error => exact congrArg (Except.error error, ·) htree
      | ok x =>
        have hafter := (hnext x).perform_eq after
        have hafter' := (hnext x).perform_eq after'
        rw [htree] at hafter
        exact hafter.trans hafter'.symm

instance (p : Prop) [Decidable p] (first second : Job α) [hfirst : OnTree first]
    [hsecond : OnTree second] : OnTree (if p then first else second) := by
  split
  · exact hfirst
  · exact hsecond

theorem effect_eq {job : Job α} [hjob : OnTree job] {session after : Session}
    {outcome : Except Error α} (h : job.perform session = (outcome, after)) :
    job.effect session.tree = (outcome, after.tree) := by
  rw [← hjob.perform_eq session, h]

theorem perform_of_effect {job : Job α} [hjob : OnTree job] {session : Session}
    {outcome : Except Error α} {tree : FileTree} (h : job.effect session.tree = (outcome, tree)) :
    ∃ after, job.perform session = (outcome, after) ∧ after.tree = tree := by
  have hperform := hjob.perform_eq session
  rw [h, Prod.mk.injEq] at hperform
  exact ⟨_, Prod.ext hperform.1 rfl, hperform.2⟩

theorem exists_perform_iff {job : Job α} [hjob : OnTree job] {session : Session}
    {outcome : Except Error α} : (∃ after, job.perform session = (outcome, after)) ↔
      (job.effect session.tree).1 = outcome := by
  rw [← hjob.perform_eq session]
  constructor
  · rintro ⟨after, h⟩
    rw [h]
  · intro h
    exact ⟨_, Prod.ext h rfl⟩

theorem perform_of_fst {job : Job α} {session : Session} {outcome : Except Error α}
    (h : (job.perform session).1 = outcome) : ∃ after, job.perform session = (outcome, after) :=
  ⟨(job.perform session).2, Prod.ext h rfl⟩

variable {tree after : FileTree}

@[simp]
theorem effect_pure {value value' : α} :
    (pure value : Job α).effect tree = (.ok value', after) ↔ value' = value ∧ after = tree := by
  simp [effect, eq_comm]

@[simp]
theorem effect_note {level : Log.Level} {speaker : Log.Speaker} {message : String} {value : Unit} :
    (note level speaker message).effect tree = (.ok value, after) ↔ after = tree := by
  simp [effect, eq_comm]

@[simp]
theorem effect_ofExcept {result : Except Error α} {value : α} :
    (MonadExcept.ofExcept result : Job α).effect tree = (.ok value, after) ↔
      result = .ok value ∧ after = tree := by
  simp [effect, eq_comm]

/-- A job succeeds with what follows it if both succeed one after the other. -/
theorem effect_bind {job : Job α} {next : α → Job β} [hnext : ∀ x, OnTree (next x)] {value : β} :
    (job >>= next).effect tree = (.ok value, after) ↔ ∃ x between,
      job.effect tree = (.ok x, between) ∧ (next x).effect between = (.ok value, after) := by
  rw [effect, perform_bind]
  cases hjob : job.perform { tree } with
  | mk outcome session =>
    have heffect : job.effect tree = (outcome, session.tree) := by
      rw [effect, hjob]
    cases outcome with
    | error error => simp [heffect]
    | ok x =>
      have hperform := (hnext x).perform_eq session
      simp only [heffect, Prod.mk.injEq, Except.ok.injEq]
      constructor
      · rintro h
        exact ⟨x, session.tree, ⟨rfl, rfl⟩, by rw [← hperform, Prod.mk.injEq]; exact h⟩
      · rintro ⟨_, _, ⟨rfl, rfl⟩, h⟩
        rw [← hperform, Prod.mk.injEq] at h
        exact h

/-- What follows a job may only shape its value. -/
theorem effect_bind_pure {job : Job α} {shape : α → β} {value : β} :
    (job >>= fun x => pure (shape x)).effect tree = (.ok value, after) ↔
      ∃ x, job.effect tree = (.ok x, after) ∧ value = shape x := by
  rw [effect_bind]
  constructor
  · rintro ⟨x, between, hx, hpure⟩
    obtain ⟨rfl, rfl⟩ := effect_pure.mp hpure
    exact ⟨x, hx, rfl⟩
  · rintro ⟨x, hx, rfl⟩
    exact ⟨x, after, hx, effect_pure.mpr ⟨rfl, rfl⟩⟩

theorem effect_get {next : Session → Job α} :
    (get >>= next).effect tree = (next { tree }).effect tree := by
  rw [effect, perform_get_bind, effect]

/-- A job that is put together of jobs with the property has it too. -/
structure Composes (property : ∀ {α : Type}, Job α → Prop) : Prop where
  pure : ∀ {α : Type} (value : α), property (Pure.pure value : Job α)
  bind : ∀ {α β : Type} {job : Job α} {next : α → Job β}, property job →
    (∀ x, property (next x)) → property (job >>= next)

section Composes

variable {property : ∀ {α : Type}, Job α → Prop}

theorem Composes.mapM (h : Composes property) {f : α → Job β} (hf : ∀ x, property (f x))
    (xs : List α) : property (xs.mapM f) := by
  induction xs with
  | nil =>
    rw [List.mapM_nil]
    exact h.pure []
  | cons x xs ih =>
    rw [List.mapM_cons]
    exact h.bind (hf x) fun y => h.bind ih fun ys => h.pure (y :: ys)

theorem Composes.forM (h : Composes property) {f : α → Job PUnit} (hf : ∀ x, property (f x))
    (xs : List α) : property (xs.forM f) := by
  induction xs with
  | nil => exact h.pure PUnit.unit
  | cons x xs ih => exact h.bind (hf x) fun _ => ih

end Composes

theorem composes_onTree : Composes OnTree where
  pure _ := inferInstance
  bind _ _ := inferInstance

instance (f : α → Job β) [hf : ∀ x, OnTree (f x)] (xs : List α) : OnTree (xs.mapM f) :=
  composes_onTree.mapM hf xs

instance (f : α → Job PUnit) [hf : ∀ x, OnTree (f x)] (xs : List α) : OnTree (xs.forM f) :=
  composes_onTree.forM hf xs

structure Answered {γ : Type} (gives : α → γ → Prop) (xs : List α) (pairs : List (α × γ)) :
    Prop where
  asked : pairs.map Prod.fst = xs
  given : ∀ pair ∈ pairs, gives pair.1 pair.2

theorem answered_nil {γ : Type} {gives : α → γ → Prop} {pairs : List (α × γ)} :
    Answered gives [] pairs ↔ pairs = [] := by
  constructor
  · intro h
    exact List.map_eq_nil_iff.mp h.asked
  · rintro rfl
    exact ⟨rfl, nofun⟩

theorem answered_cons {γ : Type} {gives : α → γ → Prop} {x : α} {xs : List α}
    {pairs : List (α × γ)} : Answered gives (x :: xs) pairs ↔
      ∃ y rest, gives x y ∧ Answered gives xs rest ∧ pairs = (x, y) :: rest := by
  constructor
  · rintro ⟨hasked, hgiven⟩
    obtain ⟨⟨_, y⟩, rest, rfl, rfl, hrest⟩ := List.map_eq_cons_iff.mp hasked
    rw [List.forall_mem_cons] at hgiven
    exact ⟨y, rest, hgiven.1, ⟨hrest, hgiven.2⟩, rfl⟩
  · rintro ⟨y, rest, hy, ⟨hasked, hgiven⟩, rfl⟩
    exact ⟨congrArg (x :: ·) hasked, List.forall_mem_cons.mpr ⟨hy, hgiven⟩⟩

theorem Answered.mem {γ : Type} {gives : α → γ → Prop} {xs : List α} {pairs : List (α × γ)}
    (h : Answered gives xs pairs) {pair : α × γ} (hpair : pair ∈ pairs) : pair.1 ∈ xs :=
  h.asked ▸ List.mem_map_of_mem hpair

theorem Answered.exists_given {γ : Type} {gives : α → γ → Prop} {xs : List α}
    {pairs : List (α × γ)} (h : Answered gives xs pairs) {x : α} (hx : x ∈ xs) :
    ∃ y, (x, y) ∈ pairs ∧ gives x y := by
  rw [← h.asked] at hx
  obtain ⟨⟨_, y⟩, hpair, rfl⟩ := List.mem_map.mp hx
  exact ⟨y, hpair, h.given _ hpair⟩

theorem Answered.congr {γ : Type} {gives gives' : α → γ → Prop} {xs : List α}
    {pairs : List (α × γ)} (h : Answered gives xs pairs)
    (hgives : ∀ pair ∈ pairs, gives pair.1 pair.2 → gives' pair.1 pair.2) :
    Answered gives' xs pairs :=
  ⟨h.asked, fun pair hpair => hgives pair hpair (h.given pair hpair)⟩

theorem Answered.unique {γ : Type} {gives : α → γ → Prop} {xs : List α}
    {pairs pairs' : List (α × γ)} (h : Answered gives xs pairs) (h' : Answered gives xs pairs')
    (hgives : ∀ x y y', gives x y → gives x y' → y = y') : pairs = pairs' := by
  induction xs generalizing pairs pairs' with
  | nil => rw [answered_nil.mp h, answered_nil.mp h']
  | cons x xs ih =>
    obtain ⟨y, rest, hy, hrest, rfl⟩ := answered_cons.mp h
    obtain ⟨y', rest', hy', hrest', rfl⟩ := answered_cons.mp h'
    rw [hgives x y y' hy hy', ih hrest hrest']

/-- A loop of jobs that leave the tree as it is. -/
theorem effect_mapM {γ : Type} {f : α → Job β} [hf : ∀ x, OnTree (f x)] {gives : α → γ → Prop}
    {make : α → γ → β}
    (h : ∀ x y after, (f x).effect tree = (.ok y, after) ↔
      ∃ given, gives x given ∧ y = make x given ∧ after = tree) {xs : List α} {ys : List β} :
    (xs.mapM f).effect tree = (.ok ys, after) ↔ ∃ pairs, Answered gives xs pairs ∧
      ys = pairs.map (fun pair => make pair.1 pair.2) ∧ after = tree := by
  induction xs generalizing ys with
  | nil =>
    rw [List.mapM_nil, effect_pure]
    simp [answered_nil]
  | cons x xs ih =>
    rw [List.mapM_cons, effect_bind]
    constructor
    · rintro ⟨y, between, hx, hrest⟩
      obtain ⟨given, hgives, rfl, rfl⟩ := (h x y between).mp hx
      rw [effect_bind] at hrest
      obtain ⟨rest, between, hxs, hlast⟩ := hrest
      obtain ⟨rfl, rfl⟩ := effect_pure.mp hlast
      obtain ⟨pairs, hpairs, rfl, rfl⟩ := ih.mp hxs
      exact ⟨_, answered_cons.mpr ⟨given, pairs, hgives, hpairs, rfl⟩, rfl, rfl⟩
    · rintro ⟨pairs, hpairs, rfl, rfl⟩
      obtain ⟨given, rest, hgives, hrest, rfl⟩ := answered_cons.mp hpairs
      refine ⟨_, after, (h x _ after).mpr ⟨given, hgives, rfl, rfl⟩, ?_⟩
      rw [effect_bind]
      exact ⟨_, after, ih.mpr ⟨rest, hrest, rfl, rfl⟩, effect_pure.mpr ⟨rfl, rfl⟩⟩

theorem effect_forM_nil {f : α → Job PUnit} {value : PUnit} :
    (([] : List α).forM f).effect tree = (.ok value, after) ↔ after = tree := by
  have hpure : (([] : List α).forM f).effect tree = (.ok value, after) ↔
      value = ⟨⟩ ∧ after = tree := effect_pure
  rw [hpure]
  exact and_iff_right rfl

theorem effect_forM_cons {f : α → Job PUnit} [hf : ∀ x, OnTree (f x)] {x : α} {xs : List α}
    {value : PUnit} : ((x :: xs).forM f).effect tree = (.ok value, after) ↔ ∃ between,
      (f x).effect tree = (.ok ⟨⟩, between) ∧ (xs.forM f).effect between = (.ok value, after) := by
  have hbind : ((x :: xs).forM f).effect tree = (.ok value, after) ↔ _ := effect_bind
  rw [hbind]
  exact ⟨fun ⟨⟨⟩, h⟩ => h, fun h => ⟨⟨⟩, h⟩⟩

theorem perform_readText (path : Path) (session : Session) : (readText path).perform session =
    ((session.tree.readText path).mapError (faultAt path), session) := by
  rw [readText, perform_bind, perform_get]
  exact perform_access path _ session

theorem perform_prepareFolder (path : Path) (session : Session) :
    (prepareFolder path).perform session =
      ((session.tree.prepare path).1.mapError (faultAt ((Path.parent? path).getD "")),
        { session with tree := (session.tree.prepare path).2 }) := by
  unfold prepareFolder FileTree.prepare
  cases Path.parent? path with
  | none => rfl
  | some folder =>
    simp only [perform_bind, perform_get]
    by_cases hthere : (folder.isEmpty || session.tree.pathExists folder) = true
    · simp [hthere, Except.mapError]
    · simp [hthere, perform_bind]

theorem perform_writeText (path : Path) (text : String) (session : Session) :
    (writeText path text).perform session = match session.tree.prepare path with
      | (.error fault, made) =>
        (.error (faultAt ((Path.parent? path).getD "") fault), { session with tree := made })
      | (.ok (), made) => match made.writeText path text with
        | .error fault => (.error (faultAt path fault), { session with tree := made })
        | .ok after => (.ok (), { session with tree := after }) := by
  rw [writeText, perform_bind, perform_prepareFolder]
  obtain ⟨outcome, made⟩ := session.tree.prepare path
  cases outcome with
  | error fault => rfl
  | ok =>
    simp only [Except.mapError, perform_bind, perform_get, perform_access]
    cases made.writeText path text <;> rfl

instance (path : Path) : OnTree (readText path) :=
  ⟨fun session => by simp only [effect, perform_readText]⟩

instance (path : Path) (text : String) : OnTree (writeText path text) := by
  refine ⟨fun session => ?_⟩
  simp only [effect, perform_writeText]
  obtain ⟨outcome, made⟩ := session.tree.prepare path
  cases outcome with
  | error fault => rfl
  | ok =>
    simp only
    cases made.writeText path text <;> rfl

theorem mapError_eq_ok {ε ε' : Type} {f : ε → ε'} {result : Except ε α} {value : α} :
    result.mapError f = .ok value ↔ result = .ok value := by
  cases result <;> simp [Except.mapError]

@[simp]
theorem effect_readText {path : Path} {text : String} :
    (readText path).effect tree = (.ok text, after) ↔
      tree.readText path = .ok text ∧ after = tree := by
  rw [effect, perform_readText, Prod.mk.injEq, mapError_eq_ok]
  exact and_congr_right fun _ => eq_comm

/-- Writing a file succeeds exactly if it is saved where it can be written. -/
theorem effect_writeText (htree : FileTree.Regular tree) {path : Path} {text : String}
    {value : Unit} :
    (writeText path text).effect tree = (.ok value, after) ↔
      ∃ place, FileTree.Saved tree path text place after ∧ place ∉ tree.sealed := by
  rw [effect, perform_writeText]
  obtain ⟨hregular, hmore⟩ := FileTree.prepare_moreFolders htree path
  cases hprepare : tree.prepare path with
  | mk outcome made =>
    rw [hprepare] at hregular hmore
    cases outcome with
    | error fault =>
      simp only [Prod.mk.injEq, reduceCtorEq, false_and, false_iff]
      rintro ⟨place, hsaved, _⟩
      cases hsaved with
      | intro hready => cases hprepare.symm.trans hready
    | ok =>
      simp only
      constructor
      · intro h
        cases hwrite : made.writeText path text with
        | error fault => simp [hwrite] at h
        | ok written =>
          simp only [hwrite, Prod.mk.injEq, true_and] at h
          subst h
          obtain ⟨folder, last, hleads, hfree, hopen, rfl⟩ :=
            (FileTree.writeBytes_iff hregular).mp hwrite
          refine ⟨folder ++ [last], .intro hprepare hleads hfree ?_, hmore.sealed ▸ hopen⟩
          exact fun hsealed => absurd hsealed hopen
      · rintro ⟨place, hsaved, hopen⟩
        cases hsaved with
        | @intro ready folder last hready hleads hfree _ =>
          cases hprepare.symm.trans hready
          have hwrite : made.writeText path text = _ := (FileTree.writeBytes_iff hregular).mpr
            ⟨folder, last, hleads, hfree, hmore.sealed.symm ▸ hopen, rfl⟩
          simp [hwrite]

end ReleaseStamp.Job
