import ReleaseStamp.Proofs.FileTree.Save

/-!
# Where a path leads through links

How a path is followed, as a relation with a case for each way that it goes on. A tree to which
folders and files are added keeps its links, and every path that has led somewhere leads there
still.
-/
namespace ReleaseStamp.FileTree

/-- The names lead from a place to a target, through no more links than a number. -/
inductive Follows (root : Node) (purpose : Purpose) :
    Nat → Place → List Path → Bool → Target → Prop where
  | folder {links place names slash folder} :
      approach root place names = .folder folder →
      Follows root purpose links place names slash ⟨folder, none, slash⟩
  | last {links place names slash folder name} :
      approach root place names = .last folder name → ¬ (purpose = .write ∧ slash = true) →
      isTooLong name = false →
      (∀ link, root.get? (folder ++ [name]) = some (.link link) → purpose.follows slash = false) →
      Follows root purpose links place names slash ⟨folder, some name, slash⟩
  | detour {links place names slash folder link rest target} :
      approach root place names = .detour folder link rest →
      Follows root purpose links (startOf folder link) (Path.steps link ++ rest) slash target →
      Follows root purpose (links + 1) place names slash target
  | link {links place names slash folder name link target} :
      approach root place names = .last folder name → ¬ (purpose = .write ∧ slash = true) →
      isTooLong name = false → root.get? (folder ++ [name]) = some (.link link) →
      purpose.follows slash = true →
      Follows root purpose links (startOf folder link) (Path.steps link)
        (slash || Path.endsWithSlash link) target →
      Follows root purpose (links + 1) place names slash target

variable {root : Node} {purpose : Purpose} {links : Nat} {place folder : Place}
  {names : List Path} {slash : Bool} {target : Target}

theorem follow_detour_ok {link : Path} {rest : List Path}
    (happroach : approach root place names = .detour folder link rest)
    (h : follow root purpose links place names slash = .ok target) :
    ∃ fewer, links = fewer + 1 ∧ follow root purpose fewer (startOf folder link)
      (Path.steps link ++ rest) slash = .ok target := by
  unfold follow at h
  rw [happroach] at h
  cases links with
  | zero => cases h
  | succ fewer => exact ⟨fewer, rfl, h⟩

theorem follow_last_ok {name : Path} (happroach : approach root place names = .last folder name)
    (h : follow root purpose links place names slash = .ok target) :
    (¬ (purpose = .write ∧ slash = true) ∧ isTooLong name = false) ∧
      ((target = ⟨folder, some name, slash⟩ ∧
        ∀ link, root.get? (folder ++ [name]) = some (.link link) → purpose.follows slash = false) ∨
      ∃ link fewer, root.get? (folder ++ [name]) = some (.link link) ∧
        purpose.follows slash = true ∧ links = fewer + 1 ∧
        follow root purpose fewer (startOf folder link) (Path.steps link)
          (slash || Path.endsWithSlash link) = .ok target) := by
  unfold follow at h
  rw [happroach] at h
  simp only [Bool.and_eq_true, decide_eq_true_eq] at h
  split at h
  · cases h
  · rename_i hwrite
    split at h
    · cases h
    · rename_i hshort
      refine ⟨⟨hwrite, Bool.eq_false_iff.mpr hshort⟩, ?_⟩
      split at h
      · rename_i link hlink
        split at h
        · rename_i hfollows
          right
          cases links with
          | zero => cases h
          | succ fewer => exact ⟨link, fewer, hlink, hfollows, rfl, h⟩
        · rename_i hfollows
          cases h
          exact Or.inl ⟨rfl, fun _ _ => Bool.eq_false_iff.mpr hfollows⟩
      · rename_i hlink
        cases h
        exact Or.inl ⟨rfl, fun link hfound => absurd hfound (hlink link)⟩

theorem follow_eq_ok : follow root purpose links place names slash = .ok target ↔
    Follows root purpose links place names slash target := by
  constructor
  · intro h
    induction links using Nat.strongRecOn generalizing place names slash with
    | ind links ih =>
      cases happroach : approach root place names with
      | failed fault =>
        unfold follow at h
        rw [happroach] at h
        cases h
      | folder folder =>
        unfold follow at h
        rw [happroach] at h
        cases h
        exact .folder happroach
      | detour folder link rest =>
        obtain ⟨fewer, rfl, hrest⟩ := follow_detour_ok happroach h
        exact .detour happroach (ih fewer (Nat.lt_succ_self fewer) hrest)
      | last folder name =>
        obtain ⟨⟨hwrite, hshort⟩, ⟨rfl, hlink⟩ | ⟨link, fewer, hlink, hfollows, rfl, hrest⟩⟩ :=
          follow_last_ok happroach h
        · exact .last happroach hwrite hshort hlink
        · exact .link happroach hwrite hshort hlink hfollows
            (ih fewer (Nat.lt_succ_self fewer) hrest)
  · intro h
    induction h with
    | folder happroach =>
      unfold follow
      rw [happroach]
    | last happroach hwrite hshort hlink =>
      unfold follow
      rw [happroach]
      simp only [Bool.and_eq_true, decide_eq_true_eq, if_neg hwrite, hshort, Bool.false_eq_true,
        if_false]
      split
      · rename_i link hfound
        rw [if_neg (Bool.eq_false_iff.mp (hlink link hfound))]
      · rfl
    | detour happroach _ ih =>
      unfold follow
      rw [happroach]
      exact ih
    | link happroach hwrite hshort hlink hfollows _ ih =>
      unfold follow
      rw [happroach]
      simp only [Bool.and_eq_true, decide_eq_true_eq, if_neg hwrite, hshort, Bool.false_eq_true,
        if_false, hlink, hfollows, if_true]
      exact ih

theorem resolve_eq_ok {tree : FileTree} {path : Path} :
    tree.resolve purpose path = .ok target ↔ Fits path ∧ Follows tree.root purpose 40
      (startOf tree.here path) (Path.steps path) (Path.endsWithSlash path) target := by
  constructor
  · intro h
    have hfits := fits_of_resolve h
    rw [resolve_of_fits hfits, follow_eq_ok] at h
    exact ⟨hfits, h⟩
  · rintro ⟨hfits, h⟩
    rw [resolve_of_fits hfits, follow_eq_ok]
    exact h

theorem find_eq_ok {tree : FileTree} {path : Path} {node : Node} :
    tree.find purpose path = .ok (place, node) ↔ ∃ target, tree.resolve purpose path = .ok target ∧
      place = target.place ∧ tree.root.get? place = some node ∧
      (target.slash = true → node.isFolder = true) := by
  unfold find
  cases tree.resolve purpose path with
  | error fault => simp [bind, Except.bind]
  | ok target =>
    simp only [bind, Except.bind, Except.ok.injEq, exists_eq_left']
    cases hnode : tree.root.get? target.place with
    | none =>
      simp only [reduceCtorEq, false_iff]
      rintro ⟨rfl, hplace, _⟩
      rw [hnode] at hplace
      cases hplace
    | some found =>
      simp only [Bool.and_eq_true, Bool.not_eq_true']
      split
      · rename_i hslash
        simp only [reduceCtorEq, false_iff]
        rintro ⟨rfl, hplace, hfolder⟩
        rw [hnode] at hplace
        cases hplace
        rw [hfolder hslash.1] at hslash
        cases hslash.2
      · rename_i hslash
        rw [Except.ok.injEq, Prod.mk.injEq]
        constructor
        · rintro ⟨rfl, rfl⟩
          refine ⟨rfl, hnode, fun hasked => ?_⟩
          rw [← Bool.not_eq_false]
          exact fun hfolder => hslash ⟨hasked, hfolder⟩
        · rintro ⟨rfl, hplace, _⟩
          rw [hnode] at hplace
          exact ⟨rfl, Option.some.inj hplace⟩

def Approach.place? : Approach → Option Place
  | .folder place => some place
  | .last place _ => some place
  | .detour place _ _ => some place
  | .failed _ => none

theorem approach_isFolder (hplace : root.contentAt place = some .folder)
    (h : (approach root place names).place? = some folder) :
    root.contentAt folder = some .folder := by
  fun_induction approach root place names with
  | case1 | case4 | case8 =>
    cases h
    exact hplace
  | case2 place rest ih => exact ih hplace h
  | case3 place rest _ ih => exact ih (Node.contentAt_dropLast hplace) h
  | case5 | case6 | case7 => cases h
  | case9 place name rest _ _ _ _ children hchildren ih =>
    exact ih (Node.contentAt_folder.mpr ⟨children, hchildren⟩) h

theorem root_isFolder (h : root.contentAt place = some .folder) :
    root.contentAt [] = some .folder := by
  obtain ⟨children, hplace⟩ := Node.contentAt_folder.mp h
  cases root with
  | folder => rfl
  | file => cases place <;> cases hplace
  | link => cases place <;> cases hplace

theorem startOf_isFolder (h : root.contentAt place = some .folder) (path : Path) :
    root.contentAt (startOf place path) = some .folder := by
  unfold startOf
  split
  · exact root_isFolder h
  · exact h

/-- A target lies in a folder. -/
theorem Follows.isFolder (h : Follows root purpose links place names slash target)
    (hplace : root.contentAt place = some .folder) :
    root.contentAt target.folder = some .folder := by
  induction h with
  | folder happroach => exact approach_isFolder hplace (by rw [happroach]; rfl)
  | last happroach => exact approach_isFolder hplace (by rw [happroach]; rfl)
  | detour happroach _ ih =>
    have hfolder := approach_isFolder hplace (by rw [happroach]; rfl)
    exact ih (startOf_isFolder hfolder _)
  | link happroach _ _ _ _ _ ih =>
    have hfolder := approach_isFolder hplace (by rw [happroach]; rfl)
    exact ih (startOf_isFolder hfolder _)

/-- What is to be written is no link, and no slash asks for a folder there. -/
theorem Follows.of_write (h : Follows root .write links place names slash target) {name : Path}
    (hname : target.name = some name) : target.slash = false ∧
      ∀ link, root.get? (target.folder ++ [name]) ≠ some (.link link) := by
  induction h with
  | folder => cases hname
  | last _ hwrite _ hlink =>
    cases hname
    refine ⟨?_, fun link hfound => Bool.noConfusion (hlink link hfound)⟩
    rw [Bool.eq_false_iff]
    exact fun hslash => hwrite ⟨rfl, hslash⟩
  | detour _ _ ih => exact ih hname
  | link _ _ _ _ _ _ ih => exact ih hname

/-- What is followed for any purpose, but to no link, is seen there. -/
theorem Follows.look (h : Follows root purpose links place names slash target)
    (hlink : ∀ link, root.get? target.place ≠ some (.link link)) :
    Follows root .look links place names slash target := by
  have hlook : ∀ {slash : Bool}, ¬ (Purpose.look = .write ∧ slash = true) :=
    fun hwrite => Purpose.noConfusion hwrite.1
  induction h with
  | folder happroach => exact .folder happroach
  | last happroach _ hshort _ =>
    exact .last happroach hlook hshort fun link hfound => absurd hfound (hlink link)
  | detour happroach _ ih => exact .detour happroach (ih hlink)
  | link happroach _ hshort hfound _ _ ih =>
    exact .link happroach hlook hshort hfound rfl (ih hlink)

theorem resolve_look {tree : FileTree} {path : Path}
    (hresolve : tree.resolve purpose path = .ok target)
    (hlink : ∀ link, tree.root.get? target.place ≠ some (.link link)) :
    tree.resolve .look path = .ok target := by
  obtain ⟨hfits, hfollows⟩ := resolve_eq_ok.mp hresolve
  exact resolve_eq_ok.mpr ⟨hfits, hfollows.look hlink⟩

structure Extended (before after : FileTree) : Prop extends Grown before after where
  link : ∀ place target, after.root.get? place = some (.link target) ↔
    before.root.get? place = some (.link target)

variable {before after : FileTree} {path : Path}

theorem Extended.approach (h : Extended before after) {result : Approach}
    (happroach : approach before.root place names = result)
    (hresult : ∀ fault, result ≠ .failed fault) :
    FileTree.approach after.root place names = result := by
  fun_induction FileTree.approach before.root place names with
  | case1 place => exact happroach
  | case2 place rest ih => simpa [FileTree.approach] using ih happroach
  | case3 place rest _ ih => simpa [FileTree.approach] using ih happroach
  | case4 place name rest hpoint hpoints hlast =>
    rw [← happroach]
    simp [FileTree.approach, hpoint, hpoints, hlast]
  | case5 | case6 | case7 => exact absurd happroach.symm (hresult _)
  | case8 place name rest hpoint hpoints hlast hlong link hlink =>
    have hkept := (h.link _ _).mpr hlink
    rw [← happroach]
    simp [FileTree.approach, hpoint, hpoints, hlast, hlong, hkept]
  | case9 place name rest hpoint hpoints hlast hlong children hchildren ih =>
    have hfolder := h.folder _ (Node.contentAt_folder.mpr ⟨children, hchildren⟩)
    obtain ⟨children', hkept⟩ := Node.contentAt_folder.mp hfolder
    simpa [FileTree.approach, hpoint, hpoints, hlast, hlong, hkept] using ih happroach

theorem Extended.follows (h : Extended before after)
    (hfollows : Follows before.root purpose links place names slash target) :
    Follows after.root purpose links place names slash target := by
  induction hfollows with
  | folder happroach => exact .folder (h.approach happroach nofun)
  | last happroach hwrite hshort hlink =>
    exact .last (h.approach happroach nofun) hwrite hshort
      fun link hfound => hlink link ((h.link _ link).mp hfound)
  | detour happroach _ ih => exact .detour (h.approach happroach nofun) ih
  | link happroach hwrite hshort hlink hpurpose _ ih =>
    exact .link (h.approach happroach nofun) hwrite hshort ((h.link _ _).mpr hlink) hpurpose ih

theorem Extended.resolve (h : Extended before after)
    (hresolve : before.resolve purpose path = .ok target) :
    after.resolve purpose path = .ok target := by
  rw [resolve_eq_ok] at hresolve ⊢
  rw [h.here]
  exact ⟨hresolve.1, h.follows hresolve.2⟩

/-- A folder that is found is found at the same place. -/
theorem Extended.find_folder (h : Extended before after) {children : List (Path × Node)}
    (hfind : before.find purpose path = .ok (place, .folder children)) :
    ∃ children, after.find purpose path = .ok (place, .folder children) := by
  obtain ⟨target, hresolve, rfl, hfolder, _⟩ := find_eq_ok.mp hfind
  have hkept := h.folder _ (Node.contentAt_folder.mpr ⟨children, hfolder⟩)
  obtain ⟨children', hfolder'⟩ := Node.contentAt_folder.mp hkept
  exact ⟨children', find_eq_ok.mpr ⟨target, h.resolve hresolve, rfl, hfolder', fun _ => rfl⟩⟩

theorem Extended.pathExists (h : Extended before after) (hpath : before.pathExists path = true) :
    after.pathExists path = true := by
  unfold FileTree.pathExists at hpath ⊢
  cases hfind : before.find .look path with
  | error fault =>
    rw [hfind] at hpath
    cases hpath
  | ok found =>
    obtain ⟨place, node⟩ := found
    obtain ⟨target, hresolve, rfl, hnode, hslash⟩ := find_eq_ok.mp hfind
    have hfound : ∃ node', after.root.get? target.place = some node' ∧
        (target.slash = true → node'.isFolder = true) := by
      cases node with
      | file bytes =>
        obtain ⟨bytes', hfile⟩ := h.file _ ⟨bytes, Node.contentAt_file.mpr hnode⟩
        exact ⟨_, Node.contentAt_file.mp hfile, hslash⟩
      | link link => exact ⟨_, (h.link _ _).mpr hnode, hslash⟩
      | folder children =>
        obtain ⟨children', hfolder⟩ :=
          Node.contentAt_folder.mp (h.folder _ (Node.contentAt_folder.mpr ⟨children, hnode⟩))
        exact ⟨_, hfolder, fun _ => rfl⟩
    obtain ⟨node', hnode', hslash'⟩ := hfound
    rw [find_eq_ok.mpr ⟨target, h.resolve hresolve, rfl, hnode', hslash'⟩]
    rfl

theorem MoreFolders.extended (h : MoreFolders before after) : Extended before after := by
  refine ⟨h.grown, fun place link => ?_⟩
  rw [← Node.contentAt_link, ← Node.contentAt_link]
  constructor
  · intro hafter
    cases hold : before.root.contentAt place with
    | some content => rw [← h.kept place content hold, hafter]
    | none =>
      rcases h.fresh place hold with hnone | hfolder
      · cases hnone.symm.trans hafter
      · cases hfolder.symm.trans hafter
  · exact h.kept place _

/-- A file is made or written over. -/
theorem extended_of_kept {bytes : ByteArray} (hhere : after.here = before.here)
    (hsealed : after.sealed = before.sealed)
    (hfile : after.root.contentAt place = some (.file bytes))
    (hold : before.root.contentAt place = none ∨
      ∃ old, before.root.contentAt place = some (.file old))
    (hkept : ∀ other, other ≠ place →
      after.root.contentAt other = before.root.contentAt other) : Extended before after := by
  have hplace : ∀ {other content}, before.root.contentAt other = some content →
      (∀ old, content ≠ .file old) → other ≠ place := by
    rintro other content hother hcontent rfl
    rcases hold with hnone | ⟨old, hold⟩
    · cases hnone.symm.trans hother
    · exact hcontent old (Option.some.inj (hother.symm.trans hold))
  refine ⟨⟨hhere, hsealed, ?_, ?_⟩, ?_⟩
  · intro other hfolder
    rw [hkept other (hplace hfolder nofun), hfolder]
  · rintro other ⟨old, hold⟩
    by_cases hother : other = place
    · exact ⟨bytes, hother ▸ hfile⟩
    · exact ⟨old, by rw [hkept other hother, hold]⟩
  · intro other link
    rw [← Node.contentAt_link, ← Node.contentAt_link]
    constructor
    · intro hlink
      rwa [hkept] at hlink
      rintro rfl
      cases hfile.symm.trans hlink
    · intro hlink
      rw [hkept other (hplace hlink nofun), hlink]

end ReleaseStamp.FileTree
