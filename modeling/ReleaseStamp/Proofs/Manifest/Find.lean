import Mathlib.Data.List.Nodup
import ReleaseStamp.Proofs.Project.Failure
import ReleaseStamp.Proofs.Text.Bytes

/-!
# Finding manifests

In a tree that may have links anywhere, a walk from a path to a folder lists the files that are
named like a manifest and that no folder hides, unless it cannot open a folder on its way. Only a
link that the path ends with is followed. The list is in the order of the places, which is not that
of the paths as bytes.
-/
namespace ReleaseStamp

namespace FileTree

variable {root : Node} {tree : FileTree} {path : Path} {base : Place}
  {children : List (Path × Node)}

theorem follow_inspect_slash (root : Node) (links : Nat) (place : Place) (names : List Path) :
    follow root .inspect links place names true = follow root .look links place names true := by
  induction links generalizing place names with
  | zero =>
    unfold follow
    split
    · rfl
    · rfl
    · rfl
    · simp [Purpose.follows]
  | succ links ih =>
    unfold follow
    split
    · rfl
    · rfl
    · exact ih _ _
    · simp [Purpose.follows, ih]

theorem follow_failed {purpose : Purpose} {links : Nat} {place : Place} {names : List Path}
    {fault : Fault} (h : approach root place names = .failed fault) (slash : Bool) :
    follow root purpose links place names slash = .error fault := by
  unfold follow
  rw [h]

theorem follow_folder {purpose : Purpose} {links : Nat} {place folder : Place}
    {names : List Path} (h : approach root place names = .folder folder) (slash : Bool) :
    follow root purpose links place names slash = .ok ⟨folder, none, slash⟩ := by
  unfold follow
  rw [h]

/-- A link that the path ends with is found, and not what it leads to. -/
theorem follow_inspect_last {links : Nat} {place folder : Place} {names : List Path}
    {name : Path} {target : Target} (happroach : approach root place names = .last folder name)
    (h : follow root .look links place names false = .ok target) :
    follow root .inspect links place names false = .ok target ∨ ∃ folder name link,
      follow root .inspect links place names false = .ok ⟨folder, some name, false⟩ ∧
      root.get? (folder ++ [name]) = some (.link link) := by
  unfold follow at h ⊢
  rw [happroach] at h ⊢
  by_cases hlong : isTooLong name = true
  · simp [hlong] at h
  · cases hnode : root.get? (folder ++ [name]) with
    | none => simpa [hlong, hnode] using h
    | some node =>
      cases node with
      | file => simpa [hlong, hnode] using h
      | folder => simpa [hlong, hnode] using h
      | link link =>
        right
        exact ⟨folder, name, link, by simp [hlong, hnode, Purpose.follows], hnode⟩

/-- What is found when links are followed is found without that, or a link to it is. -/
theorem follow_inspect {links : Nat} {place : Place} {names : List Path} {slash : Bool}
    {target : Target} (h : follow root .look links place names slash = .ok target) :
    follow root .inspect links place names slash = .ok target ∨ ∃ folder name link,
      follow root .inspect links place names slash = .ok ⟨folder, some name, false⟩ ∧
      root.get? (folder ++ [name]) = some (.link link) := by
  cases slash with
  | true =>
    left
    rwa [follow_inspect_slash]
  | false =>
    induction links generalizing place names with
    | zero =>
      cases happroach : approach root place names with
      | failed fault => cases (follow_failed happroach false).symm.trans h
      | folder folder =>
        left
        rwa [follow_folder happroach] at h ⊢
      | detour folder link rest =>
        unfold follow at h
        rw [happroach] at h
        cases h
      | last folder name => exact follow_inspect_last happroach h
    | succ links ih =>
      cases happroach : approach root place names with
      | failed fault => cases (follow_failed happroach false).symm.trans h
      | folder folder =>
        left
        rwa [follow_folder happroach] at h ⊢
      | detour folder link rest =>
        unfold follow at h ⊢
        rw [happroach] at h ⊢
        exact ih h
      | last folder name => exact follow_inspect_last happroach h

/-- A walk from a path to a folder goes through what is below it. -/
theorem walk_of_find (h : tree.find .look path = .ok (base, .folder children)) :
    tree.walk path = walkIn path children := by
  obtain ⟨target, hresolve, rfl, hfolder⟩ := resolve_of_find h
  have hfits := fits_of_resolve hresolve
  rw [resolve_of_fits hfits] at hresolve
  rcases follow_inspect hresolve with hinspect | ⟨folder, name, link, hinspect, hlink⟩
  · rw [← resolve_of_fits hfits] at hinspect
    have hfind : tree.find .inspect path = .ok (target.place, .folder children) := by
      simp [find, hinspect, hfolder, Node.isFolder, bind, Except.bind]
    simp only [walk, hfind]
  · rw [← resolve_of_fits hfits] at hinspect
    have hfind : tree.find .inspect path = .ok (folder ++ [name], .link link) := by
      simp [find, hinspect, hlink, Target.place, bind, Except.bind]
    simp only [walk, hfind, h]

end FileTree

namespace Manifest

open FileTree (Place Node Blocks below isSkipped isPathTooLong manifestsIn)

/-- The name of a folder of build output, or a text that begins with a point. -/
def Hides (name : Path) : Prop :=
  name = "target" ∨ ∃ text : String, name = text ∧ text.toList.head? = some '.'

/-- The name of a folder of build output, or one that begins with a point, be it a text or not. -/
def MayHide (name : Path) : Prop := name = "target" ∨ name.bytes.head? = some Path.point

theorem Hides.mayHide {name : Path} (h : Hides name) : MayHide name := by
  rcases h with htarget | ⟨text, rfl, hpoint⟩
  · exact Or.inl htarget
  · exact Or.inr (Path.head?_bytes_ofString hpoint)

theorem isSkipped_iff {name : Path} : isSkipped name = true ↔ Hides name := by
  simp only [isSkipped, Option.any_eq_true, Bool.or_eq_true, beq_iff_eq, Path.text?_eq_some]
  constructor
  · rintro ⟨text, rfl, rfl | hpoint⟩
    · exact Or.inl rfl
    · exact Or.inr ⟨text, rfl, hpoint⟩
  · rintro (rfl | ⟨text, rfl, hpoint⟩)
    · exact ⟨"target", rfl, Or.inl rfl⟩
    · exact ⟨text, rfl, Or.inr hpoint⟩

theorem isSkipped_eq_false {name : Path} : isSkipped name = false ↔ ¬Hides name := by
  rw [← isSkipped_iff, Bool.not_eq_true]

/-- A folder that a walk from a path cannot open, since its path is too long. -/
structure IsTooDeep (tree : FileTree) (path : Path) (base place : Place) : Prop where
  ne_nil : place ≠ []
  folder : ∃ inner, tree.root.get? (base ++ place) = some (.folder inner)
  long : 4096 ≤ (below path place).bytes.length

variable {tree : FileTree} {path : Path} {base : Place} {children : List (Path × Node)}

theorem walkError_nameTooLong (path : Path) : walkError (path, .nameTooLong) =
    .walk ("IO error for operation on " ++ path.shown ++ ": File name too long (os error 36)") := by
  rw [walkError, String.append_assoc]
  rfl

theorem blocks_iff (hbase : tree.root.get? base = some (.folder children)) {place : Place} :
    Blocks path (.folder children) place ↔
      IsTooDeep tree path base place ∧ ∀ name ∈ place, ¬Hides name := by
  have hlong : isPathTooLong (below path place) = true ↔
    4096 ≤ (below path place).bytes.length := by
    simp [isPathTooLong]
  constructor
  · rintro ⟨hne, hfolder, hshown, hdeep⟩
    rw [← FileTree.contentAt_append hbase, Node.contentAt_folder] at hfolder
    refine ⟨⟨hne, hfolder, hlong.mp hdeep⟩, fun name hname => ?_⟩
    exact isSkipped_eq_false.mp (hshown name hname)
  · rintro ⟨⟨hne, hfolder, hdeep⟩, hshown⟩
    refine ⟨hne, ?_, fun name hname => isSkipped_eq_false.mpr (hshown name hname), hlong.mpr hdeep⟩
    rwa [← FileTree.contentAt_append hbase, Node.contentAt_folder]

theorem map_bytes_lt {first second : Place} (h : first < second) :
    first.map Path.bytes < second.map Path.bytes := by
  induction h with
  | nil => exact List.Lex.nil
  | cons _ ih => exact List.Lex.cons ih
  | rel h => exact List.Lex.rel h

/-- The manifests below a folder, once each and in order: none that a folder hides, and all that no
folder may hide. -/
structure IsListing (tree : FileTree) (path : Path) (base : Place) (places : List Place) :
    Prop where
  sound : ∀ place ∈ places, (∃ bytes, tree.root.get? (base ++ place) = some (.file bytes)) ∧
    place.getLast? = some "Cargo.toml" ∧ ∀ name ∈ place.dropLast, ¬Hides name
  complete : ∀ place : Place, (∃ bytes, tree.root.get? (base ++ place) = some (.file bytes)) →
    place.getLast? = some "Cargo.toml" → (∀ name ∈ place.dropLast, ¬MayHide name) → place ∈ places
  ordered : places.Pairwise fun first second => first.map Path.bytes < second.map Path.bytes
  once : (places.map (below path)).Nodup

theorem isManifest_iff (hbase : tree.root.get? base = some (.folder children)) {place : Place} :
    FileTree.IsManifest (.folder children) place ↔
      (∃ bytes, tree.root.get? (base ++ place) = some (.file bytes)) ∧
      place.getLast? = some "Cargo.toml" ∧ ∀ name ∈ place.dropLast, ¬Hides name := by
  simp only [← isSkipped_eq_false, ← FileTree.Node.contentAt_file, FileTree.contentAt_append hbase]
  constructor
  · intro h
    exact ⟨h.file, h.name, h.shown⟩
  · rintro ⟨hfile, hname, hshown⟩
    exact ⟨hfile, hname, hshown⟩

theorem isListing_manifestsIn (hproper : FileTree.ProperChildren children)
    (hbase : tree.root.get? base = some (.folder children)) (path : Path) :
    IsListing tree path base (manifestsIn children) where
  sound := by
    intro place hplace
    exact (isManifest_iff hbase).mp ((FileTree.mem_manifestsIn hproper place).mp hplace)
  complete := by
    intro place hfile hname hshown
    refine (FileTree.mem_manifestsIn hproper place).mpr ?_
    refine (isManifest_iff hbase).mpr ⟨hfile, hname, ?_⟩
    intro name hmem hhides
    exact hshown name hmem hhides.mayHide
  ordered := (FileTree.manifestsIn_pairwise hproper).imp map_bytes_lt
  once := by
    have hfolder : (Node.folder children).Proper := hproper
    have hnames : ∀ place ∈ manifestsIn children, ∀ name ∈ place, Path.IsName name := by
      intro place hplace
      obtain ⟨bytes, hfile⟩ := ((FileTree.mem_manifestsIn hproper place).mp hplace).file
      exact hfolder.isName (Node.contentAt_file.mp hfile)
    refine List.Nodup.map_on ?_ (FileTree.manifestsIn_nodup hproper)
    intro first hfirst second hsecond hsame
    exact FileTree.below_inj (hnames first hfirst) (hnames second hsecond) hsame

/-- A walk that starts from a path to a folder, through links or not, tells the manifests below it,
or fails with the first folder that it cannot open, and nothing but such a folder makes it fail.
Whether it enters a folder with a name that begins with a point and is no text, is left open. -/
theorem find_lists (session : Session) (htree : session.tree.root.Proper) {path : Path}
    {base : Place} {children : List (Path × Node)}
    (hroot : session.tree.find .look path = .ok (base, .folder children)) :
    ∃ places : List Place, IsListing session.tree path base places ∧
      (∀ paths after, (find path).perform session = (.ok paths, after) →
        paths = places.map (below path) ∧ after.tree = session.tree) ∧
      (∀ error after, (find path).perform session = (.error error, after) →
        after.tree = session.tree ∧
        ∃ place, IsTooDeep session.tree path base place ∧ (∀ name ∈ place, ¬Hides name) ∧
          error = .walk ("IO error for operation on " ++ (below path place).shown ++
            ": File name too long (os error 36)")) ∧
      ((∀ place, IsTooDeep session.tree path base place → ∃ name ∈ place, Hides name) →
        ∃ after, (find path).perform session = (.ok (places.map (below path)), after)) ∧
      ((∃ place, IsTooDeep session.tree path base place ∧ ∀ name ∈ place, ¬MayHide name) →
        ∃ text after, (find path).perform session = (.error (.walk text), after)) := by
  obtain ⟨_, _, hplace, hbase⟩ := FileTree.resolve_of_find hroot
  have hproper := htree.get? hbase
  have hwalk := fun paths => FileTree.walkIn_eq_ok hproper path paths
  have hstops : ∀ error after, (find path).perform session = (.error error, after) →
      after.tree = session.tree ∧
      ∃ place, IsTooDeep session.tree path base place ∧ (∀ name ∈ place, ¬Hides name) ∧
        error = .walk ("IO error for operation on " ++ (below path place).shown ++
          ": File name too long (os error 36)") := by
    intro error after h
    obtain ⟨found, stop, rest, hsplit, rfl, htree⟩ := effect_find_error.mp (Job.effect_eq h)
    rw [FileTree.walk_of_find hroot] at hsplit
    have hstop : .error stop ∈ FileTree.walkIn path children := by simp [hsplit]
    obtain ⟨place, hblocks, rfl⟩ := FileTree.mem_walkIn_error hproper hstop
    obtain ⟨hdeep, hshown⟩ := (blocks_iff hbase).mp hblocks
    exact ⟨htree, place, hdeep, hshown, walkError_nameTooLong _⟩
  refine ⟨manifestsIn children, isListing_manifestsIn hproper hbase path, ?_, hstops, ?_, ?_⟩
  · intro paths after h
    have heffect := effect_find.mp (Job.effect_eq h)
    rw [FileTree.walk_of_find hroot, hwalk] at heffect
    exact ⟨heffect.1.2, heffect.2⟩
  · intro hhidden
    have heffect : (find path).effect session.tree =
        (.ok ((manifestsIn children).map (below path)), session.tree) := by
      rw [effect_find, FileTree.walk_of_find hroot, hwalk]
      refine ⟨⟨FileTree.walkable_iff_not_blocks.mpr ?_, rfl⟩, rfl⟩
      intro place hblocks
      obtain ⟨hdeep, hshown⟩ := (blocks_iff hbase).mp hblocks
      obtain ⟨name, hmem, hhides⟩ := hhidden place hdeep
      exact hshown name hmem hhides
    obtain ⟨after, hperform, _⟩ := Job.perform_of_effect heffect
    exact ⟨after, hperform⟩
  · rintro ⟨place, hdeep, hshown⟩
    cases hperform : (find path).perform session with
    | mk result after =>
      cases result with
      | error error =>
        obtain ⟨_, stopped, _, _, rfl⟩ := hstops error after hperform
        exact ⟨_, after, rfl⟩
      | ok paths =>
        have heffect := effect_find.mp (Job.effect_eq hperform)
        rw [FileTree.walk_of_find hroot, hwalk] at heffect
        refine absurd ((blocks_iff hbase).mpr ⟨hdeep, ?_⟩)
          (FileTree.walkable_iff_not_blocks.mp heffect.1.1 place)
        intro name hmem hhides
        exact hshown name hmem hhides.mayHide

def linkedChildren : List (Path × Node) :=
  [(".git", .folder [("Cargo.toml", .file .empty)]),
    ("Cargo.toml", .file .empty),
    ("a", .folder [("Cargo.toml", .file .empty), ("target", .file .empty)]),
    ("a-b", .folder [("Cargo.toml", .file .empty)]),
    ("b", .folder [("Cargo.toml", .link "../Cargo.toml"), ("up", .link "..")])]

def linkedTree : FileTree where
  root := .folder [("link", .link "target"), ("target", .folder linkedChildren)]

theorem find_lists_through_link :
    linkedTree.root.Proper ∧
    linkedTree.find .look "link" = .ok (["target"], .folder linkedChildren) ∧
    ∃ (places : List Place) (after : Session),
      (find "link").perform { tree := linkedTree } =
        (.ok ["link/Cargo.toml", "link/a/Cargo.toml", "link/a-b/Cargo.toml"], after) ∧
      (["link/Cargo.toml", "link/a/Cargo.toml", "link/a-b/Cargo.toml"] : List Path) =
        places.map (below "link") ∧
      IsListing linkedTree "link" ["target"] places := by
  have hproper : linkedTree.root.Proper := by
    simp only [linkedTree, linkedChildren, Node.Proper, FileTree.ProperChildren,
      List.forall_mem_cons]
    decide +kernel
  have hroot : linkedTree.find .look "link" = .ok (["target"], .folder linkedChildren) := rfl
  have hfound : ((find "link").perform { tree := linkedTree }).1 =
      .ok ["link/Cargo.toml", "link/a/Cargo.toml", "link/a-b/Cargo.toml"] := by
    decide +kernel
  obtain ⟨after, hperform⟩ := Job.perform_of_fst hfound
  obtain ⟨places, hlisting, hlisted, _⟩ := find_lists { tree := linkedTree } hproper hroot
  exact ⟨hproper, hroot, places, after, hperform, (hlisted _ after hperform).1, hlisting⟩

/-- A walk tells just the manifests that no folder may hide. -/
def ListsExactly (tree : FileTree) (path : Path) (base : Place) : Prop :=
  ∃ (places : List Place) (after : Session),
    (find path).perform { tree } = (.ok (places.map (below path)), after) ∧
    ∀ place, place ∈ places ↔ (∃ bytes, tree.root.get? (base ++ place) = some (.file bytes)) ∧
      place.getLast? = some "Cargo.toml" ∧ ∀ name ∈ place.dropLast, ¬MayHide name

def longPath : Path := ⟨(List.replicate 2047 [Path.point, Path.slash]).flatten⟩

def nestedChildren : List (Path × Node) :=
  [("sub", .folder [("Cargo.toml", .file .empty)])]

def pointedName : Path := ⟨[Path.point, 0xFF]⟩

def pointedChildren : List (Path × Node) :=
  [(pointedName, .folder [("Cargo.toml", .file .empty)])]

/-- A folder whose path is too long makes a walk fail, and a name that is no text hides nothing. -/
theorem find_lists_not_exactly :
    ((Node.folder nestedChildren).Proper ∧
      FileTree.find { root := .folder nestedChildren } .look longPath =
        .ok ([], .folder nestedChildren) ∧
      ¬ListsExactly { root := .folder nestedChildren } longPath []) ∧
    (Node.folder pointedChildren).Proper ∧
      FileTree.find { root := .folder pointedChildren } .look "." =
        .ok ([], .folder pointedChildren) ∧
      ¬ListsExactly { root := .folder pointedChildren } "." [] := by
  refine ⟨⟨?_, ?_, ?_⟩, ?_, rfl, ?_⟩
  · simp only [nestedChildren, Node.Proper, FileTree.ProperChildren]
    decide +kernel
  · have hresolve : FileTree.resolve { root := .folder nestedChildren } .look longPath =
        .ok ⟨[], none, true⟩ := by
      decide +kernel
    rw [FileTree.find, hresolve]
    rfl
  · rintro ⟨places, after, hperform, _⟩
    have hstop : ((find longPath).perform { tree := { root := .folder nestedChildren } }).1.isOk =
        false := by
      decide +kernel
    rw [hperform] at hstop
    cases hstop
  · simp only [pointedChildren, Node.Proper, FileTree.ProperChildren]
    decide +kernel
  · rintro ⟨places, after, hperform, hexact⟩
    have hlisted : ((find ".").perform { tree := { root := .folder pointedChildren } }).1 =
        .ok [below "." [pointedName, "Cargo.toml"]] := by
      decide +kernel
    rw [hperform] at hlisted
    have hproper : FileTree.ProperChildren pointedChildren := by
      simp only [pointedChildren, Node.Proper, FileTree.ProperChildren]
      decide +kernel
    have hmanifests : manifestsIn pointedChildren = [[pointedName, "Cargo.toml"]] := rfl
    cases places with
    | nil => cases hlisted
    | cons place rest =>
      obtain ⟨hfile, hname, hshown⟩ := (hexact place).mp List.mem_cons_self
      have hlisting : IsListing { root := .folder pointedChildren } "." [] _ :=
        isListing_manifestsIn hproper rfl "."
      have hmem := hlisting.complete place hfile hname hshown
      rw [hmanifests, List.mem_singleton] at hmem
      subst hmem
      exact hshown pointedName (by simp) (Or.inr rfl)

end Manifest

end ReleaseStamp
