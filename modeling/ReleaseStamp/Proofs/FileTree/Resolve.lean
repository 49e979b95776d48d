import ReleaseStamp.Proofs.FileTree.Node
import ReleaseStamp.FileTree.Resolve

/-!
# Where a path leads without links

In a tree without links a path is followed through folders only, so that where it leads depends on
which places hold folders.
-/
namespace ReleaseStamp.FileTree

open ReleaseStamp.Path (IsName)

/-- A tree in order, without links, that the current folder is a folder of. -/
structure Regular (tree : FileTree) : Prop where
  proper : tree.root.Proper
  linkless : tree.root.Linkless
  here : tree.root.contentAt tree.here = some .folder

def enter (root : Node) (place : Place) : List Path → Option Place
  | [] => some place
  | name :: rest =>
    if name = "." then enter root place rest
    else if name = ".." then enter root place.dropLast rest
    else if isTooLong name = false ∧ root.contentAt (place ++ [name]) = some .folder then
      enter root (place ++ [name]) rest
    else none

structure Fits (path : Path) : Prop where
  nul : 0 ∉ path.bytes
  nonempty : path ≠ ""
  short : path.bytes.length < 4096

theorem Node.Linkless.contentAt_cases {root : Node} (h : root.Linkless) (place : Place) :
    root.contentAt place = none ∨ root.contentAt place = some .folder ∨
      ∃ bytes, root.contentAt place = some (.file bytes) := by
  cases hplace : root.get? place with
  | none => exact Or.inl (Node.contentAt_none.mpr hplace)
  | some node =>
    cases node with
    | file bytes => exact Or.inr (Or.inr ⟨bytes, Node.contentAt_file.mpr hplace⟩)
    | link target => exact absurd hplace (h.get? place target)
    | folder children => exact Or.inr (Or.inl (Node.contentAt_folder.mpr ⟨children, hplace⟩))

theorem Node.contentAt_dropLast {root : Node} {place : Place}
    (h : root.contentAt place = some .folder) : root.contentAt place.dropLast = some .folder := by
  rcases List.eq_nil_or_concat place with rfl | ⟨above, name, rfl⟩
  · exact h
  · obtain ⟨children, hplace⟩ := contentAt_folder.mp h
    rw [List.concat_eq_append] at hplace
    obtain ⟨siblings, habove, _⟩ := get?_concat hplace
    rw [List.concat_eq_append, List.dropLast_concat]
    exact contentAt_folder.mpr ⟨siblings, habove⟩

theorem enter_folder {root : Node} {names : List Path} {place last : Place}
    (h : root.contentAt place = some .folder) (henter : enter root place names = some last) :
    root.contentAt last = some .folder := by
  induction names generalizing place with
  | nil =>
    cases henter
    exact h
  | cons name names ih =>
    unfold enter at henter
    split at henter
    · exact ih h henter
    · split at henter
      · exact ih (Node.contentAt_dropLast h) henter
      · split at henter
        · rename_i hfolder
          exact ih hfolder.2 henter
        · cases henter

theorem enter_append {root : Node} (names rest : List Path) (place : Place) :
    enter root place (names ++ rest) =
      (enter root place names).bind fun last => enter root last rest := by
  induction names generalizing place with
  | nil => rfl
  | cons name names ih =>
    rw [List.cons_append, enter, enter]
    split
    · exact ih place
    · split
      · exact ih place.dropLast
      · split
        · exact ih (place ++ [name])
        · rfl

theorem enter_dots {root : Node} {names : List Path} (h : ∀ name ∈ names, name = ".")
    (place : Place) : enter root place names = some place := by
  induction names with
  | nil => rfl
  | cons name names ih =>
    rw [enter, if_pos (h name List.mem_cons_self)]
    exact ih fun other hother => h other (List.mem_cons_of_mem name hother)

/-- Before a last name all names are followed through folders. -/
theorem approach_concat {root : Node} (hlinkless : root.Linkless) {last : Path}
    (hlast : IsName last) (names : List Path) (place : Place) :
    (∃ folder, enter root place names = some folder ∧
      approach root place (names ++ [last]) = .last folder last) ∨
    enter root place names = none ∧
      ∃ fault, approach root place (names ++ [last]) = .failed fault := by
  induction names generalizing place with
  | nil =>
    left
    refine ⟨place, rfl, ?_⟩
    rw [List.nil_append, approach, if_neg hlast.2.2.1, if_neg hlast.2.2.2]
    rfl
  | cons name names ih =>
    rw [List.cons_append, approach, enter]
    split
    · exact ih place
    · split
      · exact ih place.dropLast
      · have hmore : (names ++ [last]).isEmpty = false := by
          cases names <;> rfl
        rw [hmore, if_neg Bool.false_ne_true]
        by_cases hlong : isTooLong name = true
        · right
          simp [hlong]
        · rw [if_neg hlong]
          cases hplace : root.get? (place ++ [name]) with
          | none =>
            right
            simp [Node.contentAt, hplace]
          | some node =>
            cases node with
            | file bytes =>
              right
              simp [Node.contentAt, hplace, Node.content]
            | link target => exact absurd hplace (hlinkless.get? _ target)
            | folder children =>
              have hfolder : isTooLong name = false ∧
                  root.contentAt (place ++ [name]) = some .folder :=
                ⟨Bool.eq_false_iff.mpr hlong, Node.contentAt_folder.mpr ⟨children, hplace⟩⟩
              rw [if_pos hfolder]
              exact ih (place ++ [name])

theorem enter_of_approach {root : Node} (hlinkless : root.Linkless) {last : Path}
    (hlast : IsName last) {names : List Path} {place folder : Place}
    (h : approach root place (names ++ [last]) = .last folder last) :
    enter root place names = some folder := by
  rcases approach_concat hlinkless hlast names place with
    ⟨found, henter, hfound⟩ | ⟨_, fault, hfailed⟩
  · rw [h] at hfound
    cases hfound
    exact henter
  · rw [h] at hfailed
    cases hfailed

/-- A path to a folder names it, or ends with points. -/
theorem approach_of_enter {root : Node} {names : List Path} {place folder : Place}
    (h : enter root place names = some folder) :
    approach root place names = .folder folder ∨ ∃ above last, folder = above ++ [last] ∧
      isTooLong last = false ∧ root.contentAt folder = some .folder ∧
      approach root place names = .last above last := by
  induction names generalizing place with
  | nil =>
    cases h
    exact Or.inl rfl
  | cons name names ih =>
    rw [enter] at h
    rw [approach]
    split at h
    · rename_i hpoint
      rw [if_pos hpoint]
      exact ih h
    · rename_i hpoint
      rw [if_neg hpoint]
      split at h
      · rename_i hpoints
        rw [if_pos hpoints]
        exact ih h
      · rename_i hpoints
        rw [if_neg hpoints]
        split at h
        · rename_i hfolder
          cases names with
          | nil =>
            cases h
            exact Or.inr ⟨place, name, rfl, hfolder.1, hfolder.2, rfl⟩
          | cons next names =>
            obtain ⟨children, hplace⟩ := Node.contentAt_folder.mp hfolder.2
            simp only [List.isEmpty_cons, Bool.false_eq_true, if_false, hfolder.1, hplace]
            exact ih h
        · cases h

theorem approach_last {root : Node} {names : List Path} {place folder : Place} {last : Path}
    (h : approach root place names = .last folder last) :
    ∃ init, names = init ++ [last] ∧ last ≠ "." ∧ last ≠ ".." := by
  fun_induction approach root place names with
  | case4 place name rest hpoint hpoints hempty =>
    cases h
    exact ⟨[], by simpa using hempty, hpoint, hpoints⟩
  | case1 | case5 | case6 | case7 | case8 => cases h
  | case2 place rest ih =>
    obtain ⟨init, rfl, hlast⟩ := ih h
    exact ⟨"." :: init, rfl, hlast⟩
  | case3 place rest _ ih =>
    obtain ⟨init, rfl, hlast⟩ := ih h
    exact ⟨".." :: init, rfl, hlast⟩
  | case9 place name rest _ _ _ _ children _ ih =>
    obtain ⟨init, rfl, hlast⟩ := ih h
    exact ⟨name :: init, rfl, hlast⟩

theorem approach_ne_detour {root : Node} (h : root.Linkless) {names rest : List Path}
    {place folder : Place} {target : Path} :
    approach root place names ≠ .detour folder target rest := by
  fun_induction approach root place names with
  | case1 | case4 | case5 | case6 | case7 =>
    intro happroach
    cases happroach
  | case2 place rest ih => exact ih
  | case3 place rest _ ih => exact ih
  | case8 place name rest _ _ _ _ link hlink => exact absurd hlink (h.get? _ link)
  | case9 place name rest _ _ _ _ children _ ih => exact ih

variable {tree : FileTree} {path last : Path} {folder : Place} {purpose : Purpose}

theorem resolve_of_fits (h : Fits path) (tree : FileTree) (purpose : Purpose) :
    tree.resolve purpose path = follow tree.root purpose 40 (startOf tree.here path)
      (Path.steps path) (Path.endsWithSlash path) := by
  have hshort := Nat.not_le.mpr h.short
  simp [resolve, h.nul, h.nonempty, hshort]

theorem fits_of_resolve {target : Target} (h : tree.resolve purpose path = .ok target) :
    Fits path := by
  unfold resolve at h
  split at h
  · cases h
  · rename_i hnul
    split at h
    · cases h
    · rename_i hempty
      split at h
      · cases h
      · rename_i hshort
        refine ⟨?_, ?_, Nat.not_le.mp hshort⟩
        · simpa using hnul
        · simpa using hempty

theorem follow_last {root : Node} (hlinkless : root.Linkless) {links : Nat} {place : Place}
    {names : List Path} {slash : Bool} (h : approach root place names = .last folder last) :
    follow root purpose links place names slash =
      if purpose = .write ∧ slash = true then .error .isFolder
      else if isTooLong last then .error .nameTooLong
      else .ok ⟨folder, some last, slash⟩ := by
  -- With this the last match has one case only.
  have hno := hlinkless.get? (folder ++ [last])
  unfold follow
  rw [h]
  simp only [Bool.and_eq_true, decide_eq_true_eq]

/-- The path ends with a name, and all before it leads to a folder. -/
structure Leads (tree : FileTree) (path : Path) (folder : Place) (last : Path) : Prop where
  fits : Fits path
  ends : Path.Ends path last
  short : isTooLong last = false
  enter : enter tree.root (startOf tree.here path) (Path.steps path).dropLast = some folder

theorem Regular.start (h : Regular tree) (path : Path) :
    tree.root.contentAt (startOf tree.here path) = some .folder := by
  unfold startOf
  split
  · obtain ⟨children, hhere⟩ := Node.contentAt_folder.mp h.here
    cases hroot : tree.root with
    | folder => rfl
    | file =>
      rw [hroot] at hhere
      cases hplace : tree.here <;> rw [hplace] at hhere <;> cases hhere
    | link =>
      rw [hroot] at hhere
      cases hplace : tree.here <;> rw [hplace] at hhere <;> cases hhere
  · exact h.here

theorem Leads.isFolder (h : Leads tree path folder last) (htree : Regular tree) :
    tree.root.contentAt folder = some .folder := enter_folder (htree.start path) h.enter

theorem Leads.approach (h : Leads tree path folder last) (htree : Regular tree) :
    approach tree.root (startOf tree.here path) (Path.steps path) = .last folder last := by
  rw [h.ends.steps_eq]
  rcases approach_concat htree.linkless h.ends.name (Path.steps path).dropLast
    (startOf tree.here path) with ⟨place, henter, happroach⟩ | ⟨hnone, _⟩
  · rw [h.enter] at henter
    cases henter
    exact happroach
  · rw [h.enter] at hnone
    cases hnone

theorem Leads.resolve (h : Leads tree path folder last) (htree : Regular tree)
    (purpose : Purpose) : tree.resolve purpose path = .ok ⟨folder, some last, false⟩ := by
  rw [resolve_of_fits h.fits, follow_last htree.linkless (h.approach htree), h.ends.slash, h.short]
  simp

theorem leads_of_resolve (htree : Regular tree) {target : Target} (hends : Path.Ends path last)
    (h : tree.resolve purpose path = .ok target) :
    ∃ folder, Leads tree path folder last ∧ target = ⟨folder, some last, false⟩ := by
  have hfits := fits_of_resolve h
  rw [resolve_of_fits hfits] at h
  rcases approach_concat htree.linkless hends.name (Path.steps path).dropLast
    (startOf tree.here path) with ⟨folder, henter, happroach⟩ | ⟨_, fault, happroach⟩
  · rw [← hends.steps_eq] at happroach
    rw [follow_last htree.linkless happroach, hends.slash] at h
    cases hshort : isTooLong last with
    | true => simp [hshort] at h
    | false =>
      refine ⟨folder, ⟨hfits, hends, hshort, henter⟩, ?_⟩
      simpa [hshort] using h.symm
  · rw [← hends.steps_eq] at happroach
    unfold follow at h
    rw [happroach] at h
    cases h

/-- Where the target of a path has a name, the path has come to a folder before it. -/
theorem approach_of_resolve (htree : Regular tree) {target : Target}
    (h : tree.resolve purpose path = .ok target) (hname : target.name = some last) :
    approach tree.root (startOf tree.here path) (Path.steps path) = .last target.folder last ∧
      isTooLong last = false ∧ ¬ (purpose = .write ∧ Path.endsWithSlash path = true) := by
  rw [resolve_of_fits (fits_of_resolve h)] at h
  cases happroach : approach tree.root (startOf tree.here path) (Path.steps path) with
  | failed fault =>
    unfold follow at h
    rw [happroach] at h
    cases h
  | folder place =>
    unfold follow at h
    rw [happroach] at h
    cases h
    cases hname
  | detour place link rest => exact absurd happroach (approach_ne_detour htree.linkless)
  | last place name =>
    rw [follow_last htree.linkless happroach] at h
    split at h
    · cases h
    · rename_i hwrite
      split at h
      · cases h
      · rename_i hshort
        cases h
        cases hname
        exact ⟨rfl, Bool.eq_false_iff.mpr hshort, hwrite⟩

theorem isName_of_approach {root : Node} {place : Place}
    (h : approach root place (Path.steps path) = .last folder last) :
    IsName last ∧ ∃ init, Path.steps path = init ++ [last] := by
  obtain ⟨init, hsteps, hpoint, hpoints⟩ := approach_last h
  have hmem : last ∈ Path.steps path := by
    rw [hsteps]
    exact List.mem_append_right _ List.mem_cons_self
  exact ⟨Path.isName_of_mem_steps hmem hpoint hpoints, init, hsteps⟩

/-- What is found with a name lies in a folder. -/
theorem resolve_name (htree : Regular tree) {target : Target}
    (h : tree.resolve purpose path = .ok target) (hname : target.name = some last) :
    IsName last ∧ tree.root.contentAt target.folder = some .folder := by
  obtain ⟨happroach, _, _⟩ := approach_of_resolve htree h hname
  obtain ⟨hlast, init, hsteps⟩ := isName_of_approach happroach
  rw [hsteps] at happroach
  have henter := enter_of_approach htree.linkless hlast happroach
  exact ⟨hlast, enter_folder (htree.start path) henter⟩

theorem leads_of_resolve_write (htree : Regular tree) {target : Target}
    (h : tree.resolve .write path = .ok target) (hname : target.name = some last) :
    ∃ folder, Leads tree path folder last ∧ target = ⟨folder, some last, false⟩ := by
  obtain ⟨happroach, _, hwrite⟩ := approach_of_resolve htree h hname
  obtain ⟨hlast, init, hsteps⟩ := isName_of_approach happroach
  have hslash : Path.endsWithSlash path = false := by
    rw [Bool.eq_false_iff]
    exact fun hslash => hwrite ⟨rfl, hslash⟩
  exact leads_of_resolve htree ⟨hlast, hslash, by rw [hsteps, List.getLast?_concat]⟩ h

theorem resolve_of_find {place : Place} {node : Node}
    (h : tree.find purpose path = .ok (place, node)) : ∃ target,
      tree.resolve purpose path = .ok target ∧ place = target.place ∧
      tree.root.get? place = some node := by
  unfold FileTree.find at h
  cases hresolve : tree.resolve purpose path with
  | error fault => simp [hresolve, bind, Except.bind] at h
  | ok target =>
    cases hnode : tree.root.get? target.place with
    | none => simp [hresolve, hnode, bind, Except.bind] at h
    | some found =>
      simp only [hresolve, hnode, bind, Except.bind] at h
      split at h
      · cases h
      · cases h
        exact ⟨target, rfl, rfl, hnode⟩

theorem leads_of_find (htree : Regular tree) (hends : Path.Ends path last) {place : Place}
    {node : Node} (h : tree.find purpose path = .ok (place, node)) :
    ∃ folder, Leads tree path folder last ∧ place = folder ++ [last] ∧
      tree.root.get? place = some node := by
  obtain ⟨target, hresolve, rfl, hnode⟩ := resolve_of_find h
  obtain ⟨folder, hleads, rfl⟩ := leads_of_resolve htree hends hresolve
  exact ⟨folder, hleads, rfl, hnode⟩

theorem Leads.find (h : Leads tree path folder last) (htree : Regular tree) (purpose : Purpose)
    {node : Node} (hnode : tree.root.get? (folder ++ [last]) = some node) :
    tree.find purpose path = .ok (folder ++ [last], node) := by
  simp [FileTree.find, h.resolve htree, Target.place, hnode, bind, Except.bind]

/-- A path to a folder finds it, whatever the path ends with. -/
theorem find_of_enter (htree : Regular tree) (hfits : Fits path)
    (henter : enter tree.root (startOf tree.here path) (Path.steps path) = some folder)
    (hpurpose : purpose ≠ .write) :
    ∃ children, tree.find purpose path = .ok (folder, .folder children) := by
  obtain ⟨children, hfolder⟩ := Node.contentAt_folder.mp (enter_folder (htree.start path) henter)
  refine ⟨children, ?_⟩
  rcases approach_of_enter henter with happroach | ⟨above, last, rfl, hshort, _, happroach⟩
  · have hresolve : tree.resolve purpose path =
        .ok ⟨folder, none, Path.endsWithSlash path⟩ := by
      rw [resolve_of_fits hfits]
      unfold follow
      rw [happroach]
    simp [find, hresolve, Target.place, hfolder, bind, Except.bind, Node.isFolder]
  · have hresolve : tree.resolve purpose path =
        .ok ⟨above, some last, Path.endsWithSlash path⟩ := by
      rw [resolve_of_fits hfits, follow_last htree.linkless happroach, hshort]
      simp [hpurpose]
    simp [find, hresolve, Target.place, hfolder, bind, Except.bind, Node.isFolder]

/-- Where a file can be, the folder of its path is there. -/
theorem Leads.parent (h : Leads tree path folder last) (htree : Regular tree) {parent : Path}
    (hparent : Path.parent? path = some parent) (hne : parent ≠ "") :
    ∃ children, tree.find .look parent = .ok (folder, .folder children) := by
  rcases h.ends.parent? with hempty | ⟨found, dots, hfound, _, hprefix, hsteps, hdots⟩
  · rw [hparent] at hempty
    cases hempty
    exact absurd rfl hne
  · rw [hparent] at hfound
    cases hfound
    have hfits : Fits parent := by
      obtain ⟨rest, hrest⟩ := hprefix
      refine ⟨?_, hne, ?_⟩
      · intro hm
        apply h.fits.nul
        rw [← hrest]
        exact List.mem_append_left rest hm
      · have hbytes := h.fits.short
        rw [← hrest, List.length_append] at hbytes
        omega
    have habsolute := Path.isAbsolute_congr hprefix hne
    have henter := h.enter
    rw [startOf, ← habsolute, ← startOf, hsteps, enter_append] at henter
    obtain ⟨place, hplace, hrest⟩ := Option.bind_eq_some_iff.mp henter
    rw [enter_dots hdots] at hrest
    cases hrest
    exact find_of_enter htree hfits hplace (by decide)

theorem Leads.unique {folder' : Place} (h : Leads tree path folder last)
    (h' : Leads tree path folder' last) : folder = folder' := by
  have henter := h.enter
  rw [h'.enter] at henter
  exact (Option.some.inj henter).symm

end ReleaseStamp.FileTree
