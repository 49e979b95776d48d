import ReleaseStamp.Proofs.FileTree.Resolve

/-!
# Larger trees

What is added to a tree does not change where a path has led before, and in two trees with the same
folders and files every path leads to the same place or meets the same fault.
-/
namespace ReleaseStamp.FileTree

variable {tree : FileTree} {path last : Path} {folder : Place}

/-- The second tree has the folders and, with any contents, the files of the first. -/
structure Grown (before after : FileTree) : Prop where
  here : after.here = before.here
  sealed : after.sealed = before.sealed
  folder : ∀ place, before.root.contentAt place = some .folder →
    after.root.contentAt place = some .folder
  file : ∀ place, (∃ bytes, before.root.contentAt place = some (.file bytes)) →
    ∃ bytes, after.root.contentAt place = some (.file bytes)

theorem Grown.refl (tree : FileTree) : Grown tree tree := ⟨rfl, rfl, fun _ h => h, fun _ h => h⟩

theorem Grown.trans {first second third : FileTree} (h : Grown first second)
    (h' : Grown second third) : Grown first third :=
  ⟨h'.here.trans h.here, h'.sealed.trans h.sealed,
    fun place hplace => h'.folder place (h.folder place hplace),
    fun place hplace => h'.file place (h.file place hplace)⟩

theorem Grown.enter {before after : FileTree} (h : Grown before after) {names : List Path}
    {place : Place} (henter : FileTree.enter before.root place names = some folder) :
    FileTree.enter after.root place names = some folder := by
  induction names generalizing place with
  | nil => exact henter
  | cons name names ih =>
    rw [FileTree.enter] at henter ⊢
    split
    · rename_i hpoint
      rw [if_pos hpoint] at henter
      exact ih henter
    · rename_i hpoint
      rw [if_neg hpoint] at henter
      split
      · rename_i hpoints
        rw [if_pos hpoints] at henter
        exact ih henter
      · rename_i hpoints
        rw [if_neg hpoints] at henter
        split at henter
        · rename_i hfolder
          rw [if_pos ⟨hfolder.1, h.folder _ hfolder.2⟩]
          exact ih henter
        · cases henter

theorem Grown.leads {before after : FileTree} (h : Grown before after)
    (hleads : Leads before path folder last) : Leads after path folder last := by
  refine ⟨hleads.fits, hleads.ends, hleads.short, ?_⟩
  rw [h.here]
  exact h.enter hleads.enter

/-- Both trees have the same folders and files; the contents of the files may differ. -/
structure Alike (a b : FileTree) : Prop where
  left : Regular a
  right : Regular b
  grown : Grown a b
  back : Grown b a

variable {a b : FileTree}

theorem Alike.refl (h : Regular tree) : Alike tree tree := ⟨h, h, .refl tree, .refl tree⟩

theorem Alike.symm (h : Alike a b) : Alike b a := ⟨h.right, h.left, h.back, h.grown⟩

theorem Alike.trans {c : FileTree} (h : Alike a b) (h' : Alike b c) : Alike a c :=
  ⟨h.left, h'.right, h.grown.trans h'.grown, h'.back.trans h.back⟩

theorem Alike.none_of_none (h : Alike a b) {place : Place} (hnone : a.root.contentAt place = none) :
    b.root.contentAt place = none := by
  rcases h.right.linkless.contentAt_cases place with hb | hb | hb
  · exact hb
  · rw [h.back.folder place hb] at hnone
    cases hnone
  · obtain ⟨bytes, ha⟩ := h.back.file place hb
    rw [ha] at hnone
    cases hnone

theorem Alike.get?_cases (h : Alike a b) (place : Place) :
    (a.root.get? place = none ∧ b.root.get? place = none) ∨
    (∃ bytes bytes', a.root.get? place = some (.file bytes) ∧
      b.root.get? place = some (.file bytes')) ∨
    ∃ children children', a.root.get? place = some (.folder children) ∧
      b.root.get? place = some (.folder children') := by
  rcases h.left.linkless.contentAt_cases place with ha | ha | ha
  · exact Or.inl ⟨Node.contentAt_none.mp ha, Node.contentAt_none.mp (h.none_of_none ha)⟩
  · obtain ⟨children, hchildren⟩ := Node.contentAt_folder.mp ha
    obtain ⟨children', hchildren'⟩ := Node.contentAt_folder.mp (h.grown.folder place ha)
    exact Or.inr (Or.inr ⟨children, children', hchildren, hchildren'⟩)
  · obtain ⟨bytes', hbytes'⟩ := h.grown.file place ha
    obtain ⟨bytes, hbytes⟩ := ha
    exact Or.inr (Or.inl ⟨bytes, bytes', Node.contentAt_file.mp hbytes,
      Node.contentAt_file.mp hbytes'⟩)

theorem Alike.approach (h : Alike a b) (place : Place) (names : List Path) :
    FileTree.approach a.root place names = FileTree.approach b.root place names := by
  induction names generalizing place with
  | nil => rfl
  | cons name names ih =>
    simp only [FileTree.approach, ih]
    rcases h.get?_cases (place ++ [name]) with ⟨ha, hb⟩ | ⟨_, _, ha, hb⟩ | ⟨_, _, ha, hb⟩ <;>
      simp only [ha, hb]

theorem Alike.resolve (h : Alike a b) (purpose : Purpose) (path : Path) :
    a.resolve purpose path = b.resolve purpose path := by
  unfold FileTree.resolve
  rw [h.grown.here]
  split
  · rfl
  · split
    · rfl
    · split
      · rfl
      · cases happroach : FileTree.approach a.root (startOf a.here path) (Path.steps path) with
        | failed fault =>
          unfold follow
          rw [← h.approach, happroach]
        | folder place =>
          unfold follow
          rw [← h.approach, happroach]
        | detour place link rest => exact absurd happroach (approach_ne_detour h.left.linkless)
        | last place name =>
          rw [follow_last h.left.linkless happroach,
            follow_last h.right.linkless (h.approach _ _ ▸ happroach)]

/-- Finding ends alike: with the same place and nodes of one kind, or with the same fault. -/
theorem Alike.find_cases (h : Alike a b) (purpose : Purpose) (path : Path) :
    (∃ fault, a.find purpose path = .error fault ∧ b.find purpose path = .error fault) ∨
    ∃ place node node', a.find purpose path = .ok (place, node) ∧
      b.find purpose path = .ok (place, node') ∧ node.isFolder = node'.isFolder := by
  unfold find
  rw [h.resolve]
  cases b.resolve purpose path with
  | error fault => exact Or.inl ⟨fault, rfl, rfl⟩
  | ok target =>
    simp only [bind, Except.bind]
    rcases h.get?_cases target.place with ⟨ha, hb⟩ | ⟨bytes, bytes', ha, hb⟩ |
      ⟨children, children', ha, hb⟩
    · exact Or.inl ⟨.missing, by simp only [ha], by simp only [hb]⟩
    · cases hslash : target.slash with
      | false =>
        exact Or.inr ⟨target.place, .file bytes, .file bytes', by simp [ha], by simp [hb], rfl⟩
      | true => exact Or.inl ⟨.notFolder, by simp [ha, Node.isFolder], by simp [hb, Node.isFolder]⟩
    · exact Or.inr ⟨target.place, .folder children, .folder children',
        by simp [ha, Node.isFolder], by simp [hb, Node.isFolder], rfl⟩

end ReleaseStamp.FileTree
