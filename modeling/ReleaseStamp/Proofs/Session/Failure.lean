import ReleaseStamp.Proofs.FileTree.Overwrite
import ReleaseStamp.Proofs.Session

/-!
# Jobs that fail

Where a job stops, and the tree that it leaves there. A job that follows another one fails if the
first one does, or after that.
-/
namespace ReleaseStamp.Job

open FileTree (Regular Leads Place)

variable {α β : Type} {tree after : FileTree} {error : Error}

theorem effect_bind_error {job : Job α} {next : α → Job β} [hnext : ∀ x, OnTree (next x)] :
    (job >>= next).effect tree = (.error error, after) ↔
      job.effect tree = (.error error, after) ∨ ∃ x between,
        job.effect tree = (.ok x, between) ∧ (next x).effect between = (.error error, after) := by
  rw [effect, perform_bind]
  cases hjob : job.perform { tree } with
  | mk outcome session =>
    have heffect : job.effect tree = (outcome, session.tree) := by
      rw [effect, hjob]
    cases outcome with
    | error found => simp [heffect]
    | ok x =>
      have hperform := (hnext x).perform_eq session
      simp only [heffect, Prod.mk.injEq, reduceCtorEq, false_and, false_or, Except.ok.injEq]
      constructor
      · intro h
        refine ⟨x, session.tree, ⟨rfl, rfl⟩, ?_⟩
        rw [← hperform, Prod.mk.injEq]
        exact h
      · rintro ⟨_, _, ⟨rfl, rfl⟩, h⟩
        rw [← hperform, Prod.mk.injEq] at h
        exact h

@[simp]
theorem effect_pure_error {value : α} :
    (pure value : Job α).effect tree = (.error error, after) ↔ False := by
  simp [effect]

@[simp]
theorem effect_note_error {level : Log.Level} {speaker : Log.Speaker} {message : String} :
    (note level speaker message).effect tree = (.error error, after) ↔ False := by
  simp [effect]

theorem effect_ofExcept_error {result : Except Error α} :
    (MonadExcept.ofExcept result : Job α).effect tree = (.error error, after) ↔
      result = .error error ∧ after = tree := by
  simp [effect, eq_comm]

/-- What follows a job does not fail if it only shapes its value. -/
theorem effect_bind_pure_error {job : Job α} {shape : α → β} :
    (job >>= fun x => pure (shape x)).effect tree = (.error error, after) ↔
      job.effect tree = (.error error, after) := by
  simp only [effect_bind_error, effect_pure_error, and_false, exists_false, or_false]

/-- A loop of jobs that leave the tree as it is stops at the first one that fails. -/
theorem effect_mapM_error {γ : Type} {f : α → Job β} [hf : ∀ x, OnTree (f x)] {gives : α → γ → Prop}
    {make : α → γ → β} {refuses : α → Error → Prop}
    (h : ∀ x y after, (f x).effect tree = (.ok y, after) ↔
      ∃ given, gives x given ∧ y = make x given ∧ after = tree)
    (hstop : ∀ x error after, (f x).effect tree = (.error error, after) ↔
      refuses x error ∧ after = tree) {xs : List α} :
    (xs.mapM f).effect tree = (.error error, after) ↔ ∃ front x back, xs = front ++ x :: back ∧
      (∀ other ∈ front, ∃ given, gives other given) ∧ refuses x error ∧ after = tree := by
  induction xs with
  | nil =>
    rw [List.mapM_nil]
    simp
  | cons first xs ih =>
    rw [List.mapM_cons, effect_bind_error, hstop]
    constructor
    · rintro (⟨hrefuses, rfl⟩ | ⟨y, between, hfirst, hrest⟩)
      · exact ⟨[], first, xs, rfl, List.forall_mem_nil _, hrefuses, rfl⟩
      · obtain ⟨given, hgives, _, rfl⟩ := (h first y between).mp hfirst
        rw [effect_bind_pure_error] at hrest
        obtain ⟨front, x, back, rfl, hfront, hrefuses, hafter⟩ := ih.mp hrest
        exact ⟨first :: front, x, back, rfl, List.forall_mem_cons.mpr ⟨⟨given, hgives⟩, hfront⟩,
          hrefuses, hafter⟩
    · rintro ⟨front, x, back, hsplit, hfront, hrefuses, rfl⟩
      cases front with
      | nil =>
        cases hsplit
        exact Or.inl ⟨hrefuses, rfl⟩
      | cons _ front =>
        cases hsplit
        rw [List.forall_mem_cons] at hfront
        obtain ⟨⟨given, hgives⟩, hfront⟩ := hfront
        refine Or.inr ⟨_, after, (h first _ after).mpr ⟨given, hgives, rfl, rfl⟩, ?_⟩
        rw [effect_bind_pure_error]
        exact ih.mpr ⟨front, x, back, rfl, hfront, hrefuses, rfl⟩

theorem effect_readText_error {path : Path} :
    (readText path).effect tree = (.error error, after) ↔ ∃ fault,
      tree.readText path = .error fault ∧ error = faultAt path fault ∧ after = tree := by
  rw [effect, perform_readText, Prod.mk.injEq]
  cases tree.readText path with
  | error fault => simp [Except.mapError, eq_comm]
  | ok text => simp [Except.mapError]

/-- Where the folder of a file is there, writing the file fails only if its place cannot be
written. -/
theorem effect_writeText_error (htree : Regular tree) {path last : Path} {text : String}
    {folder : Place}
    (hleads : Leads tree path folder last) :
    (writeText path text).effect tree = (.error error, after) ↔ ∃ fault,
      FileTree.Unwritable tree (folder ++ [last]) fault ∧ error = faultAt path fault ∧
      after = tree := by
  have hfault : ∀ fault, tree.writeText path text = .error fault ↔
      FileTree.Unwritable tree (folder ++ [last]) fault :=
    fun fault => FileTree.writeText_error htree hleads
  simp only [← hfault]
  rw [effect, perform_writeText, hleads.prepare htree]
  cases hwrite : tree.writeText path text with
  | error fault => simp [hwrite, eq_comm]
  | ok written => simp [hwrite]

end ReleaseStamp.Job
