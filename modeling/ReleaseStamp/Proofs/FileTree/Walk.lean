import Mathlib.Data.List.Basic
import ReleaseStamp.FileTree.Walk
import ReleaseStamp.Proofs.FileTree.Grown

/-!
# The manifests that a walk meets

A walk meets every manifest below a folder that no skipped folder hides, once and in the order of
the places. So the list is fixed by which places hold manifests, and not by what these contain. It
meets nothing else, unless the path of a folder on its way is too long to be opened.
-/
namespace ReleaseStamp.FileTree

def below (path : Path) (place : Place) : Path := place.foldl Path.join path

mutual

def manifestsAt (name : Path) : Node → List Place
  | .file _ => if name = manifestName then [[name]] else []
  | .link _ => []
  | .folder children => if isSkipped name then [] else (manifestsIn children).map (name :: ·)

def manifestsIn : List (Path × Node) → List Place
  | [] => []
  | (name, node) :: rest => manifestsAt name node ++ manifestsIn rest

end

/-- A manifest below a node, behind no skipped folder. -/
structure IsManifest (node : Node) (place : Place) : Prop where
  file : ∃ bytes, node.contentAt place = some (.file bytes)
  name : place.getLast? = some manifestName
  shown : ∀ name ∈ place.dropLast, isSkipped name = false

theorem IsManifest.ne_nil {node : Node} {place : Place} (h : IsManifest node place) :
    place ≠ [] := by
  rintro rfl
  cases h.name

theorem contentAt_cons_of_leaf {node : Node} (h : node.isFolder = false) (name : Path)
    (rest : Place) : node.contentAt (name :: rest) = none := by
  rw [Node.contentAt, Node.get?_cons_of_not_folder h, Option.map_none]

theorem contentAt_nil (node : Node) : node.contentAt [] = some node.content := by
  rw [Node.contentAt, Node.get?_nil, Option.map_some]

theorem isManifest_cons {name next : Path} {rest : Place} {node : Node} :
    (∃ bytes, node.contentAt (next :: rest) = some (.file bytes)) ∧
      (name :: next :: rest).getLast? = some manifestName ∧
      (∀ part ∈ (name :: next :: rest).dropLast, isSkipped part = false) ↔
    isSkipped name = false ∧ IsManifest node (next :: rest) := by
  rw [List.getLast?_cons_cons, List.dropLast_cons_cons, List.forall_mem_cons]
  constructor
  · rintro ⟨hfile, hname, hskip, hshown⟩
    exact ⟨hskip, hfile, hname, hshown⟩
  · rintro ⟨hskip, hfile, hname, hshown⟩
    exact ⟨hfile, hname, hskip, hshown⟩

mutual

theorem mem_manifestsAt {node : Node} (h : node.Proper) (name : Path) (place : Place) :
    place ∈ manifestsAt name node ↔ ∃ rest, place = name :: rest ∧
      (∃ bytes, node.contentAt rest = some (.file bytes)) ∧
      (name :: rest).getLast? = some manifestName ∧
      ∀ part ∈ (name :: rest).dropLast, isSkipped part = false := by
  match node with
  | .file bytes =>
    rw [manifestsAt]
    constructor
    · intro hplace
      split at hplace
      · rename_i hname
        rw [List.mem_singleton] at hplace
        exact ⟨[], hplace, ⟨bytes, contentAt_nil _⟩, by simp [hname], by simp⟩
      · cases hplace
    · rintro ⟨rest, rfl, ⟨found, hfile⟩, hname, _⟩
      cases rest with
      | nil =>
        have hname' : name = manifestName := by simpa using hname
        rw [if_pos hname', List.mem_singleton]
      | cons next rest =>
        rw [contentAt_cons_of_leaf rfl] at hfile
        cases hfile
  | .link target =>
    rw [manifestsAt]
    constructor
    · intro hplace
      cases hplace
    · rintro ⟨rest, _, ⟨found, hfile⟩, _⟩
      cases rest with
      | nil => cases hfile
      | cons next rest => cases hfile
  | .folder children =>
    have hchildren := mem_manifestsIn h
    rw [manifestsAt]
    constructor
    · intro hplace
      split at hplace
      · cases hplace
      · rename_i hskip
        obtain ⟨rest, hrest, rfl⟩ := List.mem_map.mp hplace
        have hmanifest := (hchildren rest).mp hrest
        obtain ⟨next, rest, rfl⟩ := List.exists_cons_of_ne_nil hmanifest.ne_nil
        exact ⟨_, rfl, isManifest_cons.mpr ⟨Bool.eq_false_iff.mpr hskip, hmanifest⟩⟩
    · rintro ⟨rest, rfl, hmanifest⟩
      cases rest with
      | nil =>
        obtain ⟨⟨found, hfile⟩, _⟩ := hmanifest
        rw [contentAt_nil] at hfile
        cases hfile
      | cons next rest =>
        obtain ⟨hskip, hmanifest⟩ := isManifest_cons.mp hmanifest
        rw [if_neg (by simp [hskip])]
        exact List.mem_map.mpr ⟨_, (hchildren _).mpr hmanifest, rfl⟩

/-- A walk meets the manifests that are not hidden. -/
theorem mem_manifestsIn {children : List (Path × Node)} (h : ProperChildren children)
    (place : Place) : place ∈ manifestsIn children ↔ IsManifest (.folder children) place := by
  match children with
  | [] =>
    rw [manifestsIn]
    constructor
    · intro hplace
      cases hplace
    · rintro ⟨⟨bytes, hfile⟩, hname, _⟩
      cases place with
      | nil => cases hname
      | cons name rest =>
        simp [Node.contentAt, Node.get?_folder] at hfile
  | (name, node) :: others =>
    obtain ⟨_, hless, hnode, hothers⟩ := h
    rw [manifestsIn, List.mem_append, mem_manifestsAt hnode, mem_manifestsIn hothers]
    constructor
    · rintro (⟨rest, rfl, hfile, hname, hshown⟩ | ⟨⟨bytes, hfile⟩, hname, hshown⟩)
      · exact ⟨by simpa only [Node.contentAt_first] using hfile, hname, hshown⟩
      · refine ⟨⟨bytes, ?_⟩, hname, hshown⟩
        cases place with
        | nil => cases hname
        | cons key rest =>
          have hkey : key ≠ name := by
            rintro rfl
            rw [Node.contentAt_of_lt hless] at hfile
            cases hfile
          rwa [Node.contentAt_other hkey]
    · rintro ⟨⟨bytes, hfile⟩, hname, hshown⟩
      cases place with
      | nil => cases hname
      | cons key rest =>
        by_cases hkey : key = name
        · subst hkey
          rw [Node.contentAt_first] at hfile
          exact Or.inl ⟨rest, rfl, ⟨bytes, hfile⟩, hname, hshown⟩
        · rw [Node.contentAt_other hkey] at hfile
          exact Or.inr ⟨⟨bytes, hfile⟩, hname, hshown⟩

end

theorem head_of_mem_manifestsAt {name : Path} {node : Node} {place : Place}
    (h : place ∈ manifestsAt name node) : ∃ rest, place = name :: rest := by
  cases node with
  | file bytes =>
    rw [manifestsAt] at h
    split at h
    · exact ⟨[], List.mem_singleton.mp h⟩
    · cases h
  | link target => cases h
  | folder children =>
    rw [manifestsAt] at h
    split at h
    · cases h
    · obtain ⟨rest, _, rfl⟩ := List.mem_map.mp h
      exact ⟨rest, rfl⟩

theorem head_of_mem_manifestsIn {children : List (Path × Node)} {place : Place}
    (h : place ∈ manifestsIn children) : ∃ child ∈ children, ∃ rest, place = child.1 :: rest := by
  induction children with
  | nil => cases h
  | cons child others ih =>
    obtain ⟨name, node⟩ := child
    rw [manifestsIn, List.mem_append] at h
    rcases h with h | h
    · exact ⟨_, List.mem_cons_self, head_of_mem_manifestsAt h⟩
    · obtain ⟨other, hother, hrest⟩ := ih h
      exact ⟨other, List.mem_cons_of_mem _ hother, hrest⟩

mutual

theorem manifestsAt_pairwise {node : Node} (h : node.Proper) (name : Path) :
    (manifestsAt name node).Pairwise (· < ·) := by
  match node with
  | .file bytes =>
    rw [manifestsAt]
    split
    · exact List.pairwise_singleton _ _
    · exact List.Pairwise.nil
  | .link target => exact List.Pairwise.nil
  | .folder children =>
    rw [manifestsAt]
    split
    · exact List.Pairwise.nil
    · rw [List.pairwise_map]
      exact (manifestsIn_pairwise h).imp List.Lex.cons

/-- The places come in order, name by name. -/
theorem manifestsIn_pairwise {children : List (Path × Node)} (h : ProperChildren children) :
    (manifestsIn children).Pairwise (· < ·) := by
  match children with
  | [] => exact List.Pairwise.nil
  | (name, node) :: others =>
    obtain ⟨_, hless, hnode, hothers⟩ := h
    rw [manifestsIn, List.pairwise_append]
    refine ⟨manifestsAt_pairwise hnode name, manifestsIn_pairwise hothers, ?_⟩
    intro first hfirst second hsecond
    obtain ⟨rest, rfl⟩ := head_of_mem_manifestsAt hfirst
    obtain ⟨child, hchild, rest', rfl⟩ := head_of_mem_manifestsIn hsecond
    exact List.Lex.rel (hless child hchild)

end

theorem manifestsIn_nodup {children : List (Path × Node)} (h : ProperChildren children) :
    (manifestsIn children).Nodup := by
  rw [List.nodup_iff_pairwise_ne]
  refine (manifestsIn_pairwise h).imp ?_
  rintro place _ hless rfl
  exact List.lt_irrefl place hless

/-- Two folders with manifests at the same places are walked alike. -/
theorem manifestsIn_congr {as bs : List (Path × Node)} (ha : ProperChildren as)
    (hb : ProperChildren bs) (h : ∀ place, IsManifest (.folder as) place ↔
      IsManifest (.folder bs) place) : manifestsIn as = manifestsIn bs := by
  have hperm : (manifestsIn as).Perm (manifestsIn bs) := by
    rw [List.perm_ext_iff_of_nodup (manifestsIn_nodup ha) (manifestsIn_nodup hb)]
    intro place
    rw [mem_manifestsIn ha, mem_manifestsIn hb, h]
  refine hperm.eq_of_pairwise ?_ (manifestsIn_pairwise ha) (manifestsIn_pairwise hb)
  intro first second _ _ hless hmore
  exact absurd hmore (List.lt_asymm hless)

variable {path name : Path} {node : Node} {children others : List (Path × Node)}

/-- Every folder below a node that a walk enters has a path that can be opened. -/
def Walkable (path : Path) (node : Node) : Prop :=
  ∀ place, place ≠ [] → node.contentAt place = some .folder →
    (∀ name ∈ place, isSkipped name = false) → isPathTooLong (below path place) = false

theorem walkable_nil (path : Path) : Walkable path (.folder []) := by
  intro place hne hfolder
  obtain ⟨key, rest, rfl⟩ := List.exists_cons_of_ne_nil hne
  cases hfolder

theorem walkable_cons (hless : ∀ child ∈ others, name < child.1) :
    Walkable path (.folder ((name, node) :: others)) ↔
      Walkable path (.folder [(name, node)]) ∧ Walkable path (.folder others) := by
  constructor
  · intro h
    constructor
    · intro place hne hfolder
      obtain ⟨key, rest, rfl⟩ := List.exists_cons_of_ne_nil hne
      by_cases hkey : key = name
      · subst hkey
        apply h _ hne
        rwa [Node.contentAt_first] at hfolder ⊢
      · rw [Node.contentAt_other hkey] at hfolder
        exact walkable_nil path _ hne hfolder
    · intro place hne hfolder
      obtain ⟨key, rest, rfl⟩ := List.exists_cons_of_ne_nil hne
      have hkey : key ≠ name := by
        rintro rfl
        rw [Node.contentAt_of_lt hless] at hfolder
        cases hfolder
      apply h _ hne
      rwa [Node.contentAt_other hkey]
  · intro h place hne hfolder
    obtain ⟨key, rest, rfl⟩ := List.exists_cons_of_ne_nil hne
    by_cases hkey : key = name
    · subst hkey
      apply h.1 _ hne
      rwa [Node.contentAt_first] at hfolder ⊢
    · apply h.2 _ hne
      rwa [Node.contentAt_other hkey] at hfolder

theorem walkable_leaf (h : node.isFolder = false) : Walkable path (.folder [(name, node)]) := by
  intro place hne hfolder
  obtain ⟨key, rest, rfl⟩ := List.exists_cons_of_ne_nil hne
  by_cases hkey : key = name
  · subst hkey
    rw [Node.contentAt_first] at hfolder
    cases rest with
    | nil =>
      rw [contentAt_nil] at hfolder
      cases node with
      | file => cases hfolder
      | link => cases hfolder
      | folder => cases h
    | cons next rest =>
      rw [contentAt_cons_of_leaf h] at hfolder
      cases hfolder
  · rw [Node.contentAt_other hkey] at hfolder
    exact walkable_nil path _ hne hfolder

theorem walkable_folder : Walkable path (.folder [(name, .folder children)]) ↔
    (isSkipped name = false → isPathTooLong (Path.join path name) = false ∧
      Walkable (Path.join path name) (.folder children)) := by
  constructor
  · intro h hname
    constructor
    · apply h [name] (List.cons_ne_nil name [])
      · rw [Node.contentAt_first, contentAt_nil]
        rfl
      · intro part hpart
        rwa [List.mem_singleton.mp hpart]
    · intro place hne hfolder hshown
      apply h (name :: place) (List.cons_ne_nil name place)
      · rwa [Node.contentAt_first]
      · exact List.forall_mem_cons.mpr ⟨hname, hshown⟩
  · intro h place hne hfolder hshown
    obtain ⟨key, rest, rfl⟩ := List.exists_cons_of_ne_nil hne
    by_cases hkey : key = name
    · subst hkey
      rw [List.forall_mem_cons] at hshown
      obtain ⟨hshort, hbelow⟩ := h hshown.1
      rw [Node.contentAt_first] at hfolder
      cases rest with
      | nil => exact hshort
      | cons next rest => exact hbelow _ (List.cons_ne_nil next rest) hfolder hshown.2
    · rw [Node.contentAt_other hkey] at hfolder
      exact walkable_nil path _ hne hfolder hshown

mutual

theorem walkAt_eq_ok {node : Node} (h : node.Proper) (path name : Path) (paths : List Path) :
    walkAt (Path.join path name) name node = paths.map .ok ↔
      Walkable path (.folder [(name, node)]) ∧
        paths = (manifestsAt name node).map (below path) := by
  match node with
  | .file bytes =>
    rw [walkAt, manifestsAt, and_iff_right (walkable_leaf rfl)]
    split
    · rw [eq_comm, List.map_eq_singleton_iff]
      constructor
      · rintro ⟨found, rfl, hfound⟩
        cases hfound
        rfl
      · rintro rfl
        exact ⟨_, rfl, rfl⟩
    · rw [eq_comm, List.map_eq_nil_iff]
      rfl
  | .link target =>
    rw [walkAt, manifestsAt, and_iff_right (walkable_leaf rfl), eq_comm, List.map_eq_nil_iff]
    rfl
  | .folder children =>
    have hbelow := walkIn_eq_ok h (Path.join path name) paths
    rw [walkAt, manifestsAt, walkable_folder]
    cases hname : isSkipped name with
    | true =>
      simp only [if_true, Bool.true_eq_false, false_imp_iff, true_and, List.map_nil]
      rw [eq_comm, List.map_eq_nil_iff]
    | false =>
      simp only [Bool.false_eq_true, if_false, forall_const, List.map_map]
      cases hlong : isPathTooLong (Path.join path name) with
      | true =>
        simp only [if_true, Bool.true_eq_false, false_and, iff_false]
        cases paths <;> simp
      | false =>
        simp only [Bool.false_eq_true, if_false, true_and]
        exact hbelow

/-- A walk that opens every folder comes across the manifests and nothing else. -/
theorem walkIn_eq_ok {children : List (Path × Node)} (h : ProperChildren children)
    (path : Path) (paths : List Path) : walkIn path children = paths.map .ok ↔
      Walkable path (.folder children) ∧ paths = (manifestsIn children).map (below path) := by
  match children with
  | [] =>
    rw [walkIn, manifestsIn, and_iff_right (walkable_nil path), eq_comm, List.map_eq_nil_iff]
    rfl
  | (name, node) :: others =>
    obtain ⟨_, hless, hnode, hothers⟩ := h
    rw [walkIn, manifestsIn, walkable_cons hless, List.append_eq_map_iff, List.map_append]
    constructor
    · rintro ⟨first, rest, rfl, hfirst, hrest⟩
      obtain ⟨hopen, rfl⟩ := (walkAt_eq_ok hnode path name _).mp hfirst.symm
      obtain ⟨hopens, rfl⟩ := (walkIn_eq_ok hothers path _).mp hrest.symm
      exact ⟨⟨hopen, hopens⟩, rfl⟩
    · rintro ⟨⟨hopen, hopens⟩, rfl⟩
      exact ⟨_, _, rfl, ((walkAt_eq_ok hnode path name _).mpr ⟨hopen, rfl⟩).symm,
        ((walkIn_eq_ok hothers path _).mpr ⟨hopens, rfl⟩).symm⟩

end

/-- A folder that a walk cannot open, behind no skipped folder. -/
structure Blocks (path : Path) (node : Node) (place : Place) : Prop where
  ne_nil : place ≠ []
  folder : node.contentAt place = some .folder
  shown : ∀ name ∈ place, isSkipped name = false
  long : isPathTooLong (below path place) = true

theorem walkable_iff_not_blocks : Walkable path node ↔ ∀ place, ¬Blocks path node place := by
  constructor
  · intro h place hblocks
    have hshort := h place hblocks.ne_nil hblocks.folder hblocks.shown
    rw [hblocks.long] at hshort
    cases hshort
  · intro h place hne hfolder hshown
    by_contra hlong
    exact h place ⟨hne, hfolder, hshown, by simpa using hlong⟩

mutual

theorem mem_walkAt_error {node : Node} (h : node.Proper) {path name : Path} {stop : Path × Fault}
    (hstop : .error stop ∈ walkAt (Path.join path name) name node) :
    ∃ place, Blocks path (.folder [(name, node)]) (name :: place) ∧
      stop = (below path (name :: place), .nameTooLong) := by
  match node with
  | .file bytes =>
    rw [walkAt] at hstop
    split at hstop <;> simp at hstop
  | .link target => cases hstop
  | .folder children =>
    rw [walkAt] at hstop
    split at hstop
    · cases hstop
    · rename_i hname
      rw [Bool.not_eq_true] at hname
      split at hstop
      · rename_i hlong
        cases List.mem_singleton.mp hstop
        refine ⟨[], ⟨List.cons_ne_nil name [], ?_, by simpa using hname, hlong⟩, rfl⟩
        rw [Node.contentAt_first, contentAt_nil]
        rfl
      · obtain ⟨place, hblocks, rfl⟩ := mem_walkIn_error h hstop
        refine ⟨place, ⟨List.cons_ne_nil name place, ?_, ?_, hblocks.long⟩, rfl⟩
        · rw [Node.contentAt_first]
          exact hblocks.folder
        · exact List.forall_mem_cons.mpr ⟨hname, hblocks.shown⟩

/-- A walk stops only at a folder whose path is too long. -/
theorem mem_walkIn_error {children : List (Path × Node)} (h : ProperChildren children)
    {path : Path} {stop : Path × Fault} (hstop : .error stop ∈ walkIn path children) :
    ∃ place, Blocks path (.folder children) place ∧ stop = (below path place, .nameTooLong) := by
  match children with
  | [] => cases hstop
  | (name, node) :: others =>
    obtain ⟨_, hless, hnode, hothers⟩ := h
    rw [walkIn, List.mem_append] at hstop
    rcases hstop with hstop | hstop
    · obtain ⟨place, hblocks, rfl⟩ := mem_walkAt_error hnode hstop
      refine ⟨name :: place, ⟨hblocks.ne_nil, ?_, hblocks.shown, hblocks.long⟩, rfl⟩
      have hfolder := hblocks.folder
      rwa [Node.contentAt_first] at hfolder ⊢
    · obtain ⟨place, hblocks, rfl⟩ := mem_walkIn_error hothers hstop
      refine ⟨place, ⟨hblocks.ne_nil, ?_, hblocks.shown, hblocks.long⟩, rfl⟩
      obtain ⟨key, rest, rfl⟩ := List.exists_cons_of_ne_nil hblocks.ne_nil
      have hfolder := hblocks.folder
      have hkey : key ≠ name := by
        rintro rfl
        rw [Node.contentAt_of_lt hless] at hfolder
        cases hfolder
      rwa [Node.contentAt_other hkey]

end

end ReleaseStamp.FileTree
