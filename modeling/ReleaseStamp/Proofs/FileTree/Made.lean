import ReleaseStamp.Proofs.FileTree.Below

/-!
# The folders that are made for a file

A folder that is made for a file below an existing folder lies on the way to it. So no folder gets a
path that is longer than that of a file which is saved.
-/
namespace ReleaseStamp.FileTree

open ReleaseStamp.Path (IsName IsAbove)

variable {tree before between after : FileTree} {path above : Path} {text : String}
  {base names place : Place}

theorem length_le_join {name : Path} (h : IsName name) (path : Path) :
    path.bytes.length ≤ (Path.join path name).bytes.length := by
  rw [Path.join, Path.not_isAbsolute_name h, if_neg Bool.false_ne_true]
  split
  · rw [Path.bytes_append, List.length_append]
    exact Nat.le_add_right _ _
  · rw [Path.bytes_append, Path.bytes_append, List.length_append, List.length_append]
    omega

theorem length_le_below (h : ∀ name ∈ names, IsName name) (path : Path) :
    path.bytes.length ≤ (below path names).bytes.length := by
  induction names generalizing path with
  | nil => exact Nat.le_refl _
  | cons name names ih =>
    have hname := h name List.mem_cons_self
    have hnames := ih (fun other hother => h other (List.mem_cons_of_mem name hother))
      (Path.join path name)
    exact Nat.le_trans (length_le_join hname path) hnames

theorem isPathTooLong_way {way : Place} (h : ∀ name ∈ names, IsName name)
    (hfits : Fits (below path names)) (hway : way <+: names) :
    isPathTooLong (below path way) = false := by
  obtain ⟨rest, rfl⟩ := hway
  have hrest : ∀ name ∈ rest, IsName name := fun name hname =>
    h name (List.mem_append_right way hname)
  have hle := length_le_below hrest (below path way)
  have hbelow : below (below path way) rest = below path (way ++ rest) := by
    simp [below]
  rw [hbelow] at hle
  have hshort := hfits.short
  simp only [isPathTooLong, decide_eq_false_iff_not]
  omega

/-- All that is new in the second tree lies on the way from a place to names below it. -/
def NewOnWay (base names : Place) (before after : FileTree) : Prop :=
  ∀ place, before.root.contentAt place = none → after.root.contentAt place ≠ none →
    ∃ way, way <+: names ∧ place = base ++ way

theorem NewOnWay.refl (base names : Place) (tree : FileTree) : NewOnWay base names tree tree :=
  fun _ hnone hsome => absurd hnone hsome

theorem NewOnWay.trans (h : NewOnWay base names before between)
    (h' : NewOnWay base names between after) : NewOnWay base names before after := by
  intro place hnone hsome
  by_cases hbetween : between.root.contentAt place = none
  · exact h' place hbetween hsome
  · exact h place hnone hbetween

/-- A path that goes from a folder part of the way to a place below it. -/
structure OnWay (path : Path) (names : Place) (above : Path) : Prop where
  absolute : Path.isAbsolute above = Path.isAbsolute path
  steps : Path.steps above <+: Path.steps path ++ names

theorem OnWay.steps_cases (h : OnWay path names above) :
    Path.steps above <+: Path.steps path ∨
      ∃ way, way <+: names ∧ way ≠ [] ∧ Path.steps above = Path.steps path ++ way := by
  rcases List.prefix_or_prefix_of_prefix h.steps (List.prefix_append _ names) with hle | ⟨way, heq⟩
  · exact Or.inl hle
  · by_cases hway : way = []
    · have hsame : Path.steps above = Path.steps path := by
        rw [← heq, hway, List.append_nil]
      exact Or.inl (hsame ▸ List.prefix_rfl)
    · right
      have hsteps := h.steps
      rw [← heq, List.prefix_append_right_inj] at hsteps
      exact ⟨way, hsteps, hway, heq.symm⟩

/-- The folders down to the base are there, so that a place with nothing in it is below it. -/
theorem OnWay.place_below (h : OnWay path names above) (htree : Regular tree)
    (hbase : Enters tree path base) (hnames : ∀ name ∈ names, IsName name) {init folder : Place}
    {last : Path} (hlast : IsName last) (hsplit : Path.steps above = init ++ [last])
    (henter : enter tree.root (startOf tree.here path) init = some folder)
    (hnone : tree.root.contentAt (folder ++ [last]) = none) :
    ∃ way, way <+: names ∧ folder ++ [last] = base ++ way := by
  rcases h.steps_cases with ⟨rest, hrest⟩ | ⟨way, hway, hne, hsteps⟩
  · -- The place would be that of a folder that leads to the base.
    rw [Enters, ← hrest, hsplit, List.append_assoc, enter_append, henter, Option.bind_some,
      List.singleton_append, enter, if_neg hlast.2.2.1, if_neg hlast.2.2.2] at hbase
    split at hbase
    · rename_i hfolder
      rw [hnone] at hfolder
      cases hfolder.2
    · cases hbase
  · obtain ⟨way', last', rfl⟩ : ∃ way' last', way = way' ++ [last'] :=
      ⟨_, _, (List.dropLast_concat_getLast hne).symm⟩
    rw [hsplit, ← List.append_assoc] at hsteps
    obtain ⟨rfl, hsame⟩ := List.append_inj' hsteps rfl
    have hway' : ∀ name ∈ way', IsName name := fun name hname =>
      hnames name (hway.subset (List.mem_append_left _ hname))
    rw [enter_append, hbase, Option.bind_some,
      enter_names hway' (hbase.isFolder htree)] at henter
    refine ⟨_, hway, ?_⟩
    rw [henter.2.2, hsame, List.append_assoc]

theorem makeFolder_newOnWay (htree : Regular tree) (hbase : Enters tree path base)
    (hnames : ∀ name ∈ names, IsName name) (habove : OnWay path names above)
    (h : tree.makeFolder above = .ok after) : NewOnWay base names tree after := by
  obtain ⟨folder, last, slash, hresolve, hnone, rfl⟩ := makeFolder_iff.mp h
  have hfree := free_of_none htree hresolve hnone
  obtain ⟨happroach, _, _⟩ := approach_of_resolve htree hresolve rfl
  obtain ⟨hlast, init, hinit⟩ := isName_of_approach happroach
  have hstart : startOf tree.here above = startOf tree.here path := by
    rw [startOf, habove.absolute, ← startOf]
  rw [hinit, hstart] at happroach
  have henter := enter_of_approach htree.linkless hlast happroach
  intro place hold hnew
  rw [hfree.contentAt isLeaf_folder] at hnew
  split at hnew
  · rename_i hsame
    obtain ⟨way, hway, hfolder⟩ :=
      habove.place_below htree hbase hnames hlast hinit henter hnone
    exact ⟨way, hway, hsame.trans hfolder⟩
  · exact absurd hold hnew

theorem makeFolders_newOnWay (htree : Regular tree) (hbase : Enters tree path base)
    (hnames : ∀ name ∈ names, IsName name) {paths : List Path}
    (hpaths : ∀ above ∈ paths, above = "" ∨ OnWay path names above) :
    NewOnWay base names tree (tree.makeFolders paths).2 := by
  have hstep : ∀ above ∈ paths, ∀ between made,
      (Regular between ∧ Enters between path base) ∧ NewOnWay base names tree between →
      between.makeFolder above = .ok made →
      (Regular made ∧ Enters made path base) ∧ NewOnWay base names tree made := by
    rintro above habove between made ⟨⟨hregular, hbetween⟩, hnew⟩ hmade
    obtain ⟨folder, last, slash, hresolve, _, _⟩ := makeFolder_iff.mp hmade
    have hway := (hpaths above habove).resolve_left (fits_of_resolve hresolve).nonempty
    obtain ⟨hregular', hmore⟩ := makeFolder_moreFolders hregular hmade
    exact ⟨⟨hregular', hmore.grown.enters hbetween⟩,
      hnew.trans (makeFolder_newOnWay hregular hbetween hnames hway hmade)⟩
  exact (makeFolders_preserves hstep ⟨⟨htree, hbase⟩, .refl base names tree⟩).2

theorem prepare_newOnWay (htree : Regular tree) (hbase : Enters tree path base)
    (hnames : ∀ name ∈ names, IsName name) :
    NewOnWay base names tree (tree.prepare (below path names)).2 := by
  unfold prepare
  split
  · exact .refl base names tree
  · rename_i parent hparent
    split
    · exact .refl base names tree
    · apply makeFolders_newOnWay htree hbase hnames
      intro above habove
      rcases Path.isAbove_ancestors habove with hempty | habove
      · exact Or.inl hempty
      · right
        rcases Path.isAbove_parent hparent with rfl | hparent
        · exact absurd (List.prefix_nil.mp habove.start)
            (mt Path.bytes_eq_nil_iff.mp habove.nonempty)
        · have hwhole := habove.trans hparent
          constructor
          · rw [hwhole.isAbsolute, isAbsolute_below hnames]
          · rw [← steps_below hnames]
            exact hwhole.steps

theorem Saved.newOnWay (h : Saved before (below path names) text place after)
    (hbefore : Regular before) (hbase : Enters before path base) (hroute : IsRoute names) :
    NewOnWay base names before after := by
  have hplace := h.place_below hbefore hbase hroute
  have hready := prepare_newOnWay hbefore hbase hroute.isName
  have hregular := (prepare_moreFolders hbefore (below path names)).1
  cases h with
  | @intro ready folder last hprepare hleads hfree _ =>
    rw [hprepare] at hready hregular
    intro other hold hnew
    rw [(hleads.free hregular hfree).contentAt (isLeaf_file _)] at hnew
    split at hnew
    · rename_i hsame
      exact ⟨names, List.prefix_rfl, hsame.trans hplace⟩
    · exact hready other hold hnew

theorem Saved.fits (h : Saved before path text place after) : Fits path := by
  cases h with
  | intro _ hleads _ _ => exact hleads.fits

variable {writes : List (Place × String)} {places : List Place}

theorem SavedAll.fits (h : SavedAll before (under path writes) places after)
    {write : Place × String} (hwrite : write ∈ writes) : Fits (FileTree.below path write.1) := by
  induction writes generalizing before places with
  | nil => cases hwrite
  | cons first writes ih =>
    cases h with
    | cons hfirst hrest =>
      rcases List.mem_cons.mp hwrite with rfl | hwrite
      · exact hfirst.fits
      · exact ih hrest hwrite

/-- All that is new after saving files lies on the way to one of them. -/
theorem SavedAll.newOnWay (h : SavedAll before (under path writes) places after)
    (hbefore : Regular before) (hbase : Enters before path base)
    (hroutes : ∀ write ∈ writes, IsRoute write.1) {place : Place}
    (hold : before.root.contentAt place = none) (hnew : after.root.contentAt place ≠ none) :
    ∃ write ∈ writes, ∃ way, way <+: write.1 ∧ place = base ++ way := by
  induction writes generalizing before places with
  | nil =>
    cases h
    exact absurd hold hnew
  | cons first writes ih =>
    cases h with
    | @cons _ between _ _ _ _ _ _ hfirst hrest =>
      rw [List.forall_mem_cons] at hroutes
      have hwrites := hfirst.writes hbefore
      by_cases hbetween : between.root.contentAt place = none
      · obtain ⟨write, hwrite, hway⟩ :=
          ih hrest hwrites.regular (hwrites.grown.enters hbase) hroutes.2 hbetween
        exact ⟨write, List.mem_cons_of_mem _ hwrite, hway⟩
      · exact ⟨first, List.mem_cons_self,
          hfirst.newOnWay hbefore hbase hroutes.1 place hold hbetween⟩

end ReleaseStamp.FileTree
