import ReleaseStamp.Proofs.FileTree.Made

/-!
# The manifests below a path

The manifests that a walk from a path finds, as places below the folder that the path leads to.
Saving files leaves them the same, if no manifest is saved where none was.
-/
namespace ReleaseStamp.FileTree

variable {tree before after : FileTree} {path : Path} {base place : Place}
  {manifests : List Place}

/-- A walk from the path finds the manifests at these places below its folder. -/
structure Found (tree : FileTree) (path : Path) (manifests : List Place) : Prop where
  fits : Fits path
  walk : ∃ base children, Enters tree path base ∧
    tree.root.get? base = some (.folder children) ∧ Walkable path (.folder children) ∧
    manifests = manifestsIn children

theorem Enters.unique {base' : Place} (h : Enters tree path base) (h' : Enters tree path base') :
    base = base' := by
  unfold Enters at h h'
  rw [h] at h'
  exact Option.some.inj h'

theorem walk_of_enters (htree : Regular tree) (hfits : Fits path) (hbase : Enters tree path base) :
    ∃ children, tree.root.get? base = some (.folder children) ∧
      tree.walk path = walkIn path children := by
  have hpurpose : Purpose.inspect ≠ .write := nofun
  obtain ⟨children, hfind⟩ := find_of_enter htree hfits hbase hpurpose
  obtain ⟨_, _, _, hfolder⟩ := resolve_of_find hfind
  refine ⟨children, hfolder, ?_⟩
  simp only [FileTree.walk, hfind]

theorem walk_eq_ok (htree : Regular tree) (hbase : Enters tree path base) {paths : List Path} :
    tree.walk path = paths.map .ok ↔
      ∃ manifests, Found tree path manifests ∧ paths = manifests.map (below path) := by
  constructor
  · intro h
    have hfits : Fits path := by
      cases hfind : tree.find .inspect path with
      | error fault =>
        simp only [FileTree.walk, hfind] at h
        cases paths <;> simp at h
      | ok found =>
        obtain ⟨target, hresolve, _⟩ := resolve_of_find hfind
        exact fits_of_resolve hresolve
    obtain ⟨children, hfolder, hwalk⟩ := walk_of_enters htree hfits hbase
    rw [hwalk, walkIn_eq_ok (htree.proper.get? hfolder)] at h
    exact ⟨_, ⟨hfits, base, children, hbase, hfolder, h.1, rfl⟩, h.2⟩
  · rintro ⟨manifests, ⟨hfits, base', children, hbase', hfolder, hopen, rfl⟩, hpaths⟩
    obtain ⟨children', hfolder', hwalk⟩ := walk_of_enters htree hfits hbase'
    rw [hfolder] at hfolder'
    cases hfolder'
    rw [hwalk, walkIn_eq_ok (htree.proper.get? hfolder)]
    exact ⟨hopen, hpaths⟩

/-- The node at a place below a folder, as seen from the root and from the folder. -/
theorem contentAt_append {root node : Node} (h : root.get? base = some node) (place : Place) :
    root.contentAt (base ++ place) = node.contentAt place := by
  rw [Node.contentAt, Node.get?_append, h, Option.bind_some, Node.contentAt]

theorem Found.mem_iff (h : Found tree path manifests) (htree : Regular tree)
    (hbase : Enters tree path base) : place ∈ manifests ↔
      (∃ bytes, tree.root.contentAt (base ++ place) = some (.file bytes)) ∧
      place.getLast? = some manifestName ∧ ∀ name ∈ place.dropLast, isSkipped name = false := by
  obtain ⟨_, base', children, hbase', hfolder, _, rfl⟩ := h
  obtain rfl := hbase.unique hbase'
  rw [mem_manifestsIn (htree.proper.get? hfolder), contentAt_append hfolder]
  constructor
  · rintro ⟨hfile, hname, hshown⟩
    exact ⟨hfile, hname, hshown⟩
  · rintro ⟨hfile, hname, hshown⟩
    exact ⟨hfile, hname, hshown⟩

theorem Found.unique {manifests' : List Place} (h : Found tree path manifests)
    (h' : Found tree path manifests') : manifests = manifests' := by
  obtain ⟨_, base, children, hbase, hfolder, _, rfl⟩ := h
  obtain ⟨_, base', children', hbase', hfolder', _, rfl⟩ := h'
  obtain rfl := hbase.unique hbase'
  rw [hfolder] at hfolder'
  cases hfolder'
  rfl

theorem Found.nodup (h : Found tree path manifests) (htree : Regular tree) : manifests.Nodup := by
  obtain ⟨_, base, children, _, hfolder, _, rfl⟩ := h
  exact manifestsIn_nodup (htree.proper.get? hfolder)

theorem Found.isRoute (h : Found tree path manifests) (htree : Regular tree)
    (hplace : place ∈ manifests) : IsRoute place := by
  obtain ⟨base, _, hbase, _⟩ := h.walk
  obtain ⟨⟨bytes, hfile⟩, hname, _⟩ := (h.mem_iff htree hbase).mp hplace
  have hnames := htree.proper.isName (Node.contentAt_file.mp hfile)
  refine ⟨?_, fun name hmem => hnames name (List.mem_append_right base hmem)⟩
  rintro rfl
  cases hname

variable {writes : List (Place × String)} {places : List Place}

/-- Folders that are made for files have paths no longer than theirs, so that a walk opens them. -/
theorem Walkable.savedAll {children children' : List (Path × Node)}
    (h : Walkable path (.folder children)) (hbefore : Regular before)
    (hbase : Enters before path base) (hfolder : before.root.get? base = some (.folder children))
    (hfolder' : after.root.get? base = some (.folder children'))
    (hsaved : SavedAll before (under path writes) places after)
    (hroutes : ∀ write ∈ writes, IsRoute write.1) : Walkable path (.folder children') := by
  intro place hne hplace hshown
  rw [← contentAt_append hfolder'] at hplace
  cases hold : before.root.contentAt (base ++ place) with
  | none =>
    have hnew : after.root.contentAt (base ++ place) ≠ none := by
      rw [hplace]
      exact Option.some_ne_none _
    obtain ⟨write, hwrite, way, hway, hsame⟩ := hsaved.newOnWay hbefore hbase hroutes hold hnew
    rw [List.append_cancel_left hsame]
    exact isPathTooLong_way (hroutes write hwrite).isName (hsaved.fits hwrite) hway
  | some content =>
    have hplaces : base ++ place ∉ places := by
      intro hmem
      obtain ⟨text, _, hfile⟩ := hsaved.written hbefore hmem
      rw [hplace] at hfile
      cases hfile
    have hkept := hsaved.kept hbefore hplaces hold
    rw [hplace] at hkept
    cases hkept
    rw [contentAt_append hfolder] at hold
    exact h place hne hold hshown

/-- A walk finds the same manifests after saving, if it has found those that are saved. -/
theorem Found.savedAll (h : Found before path manifests) (hbefore : Regular before)
    (hsaved : SavedAll before (under path writes) places after)
    (hroutes : ∀ write ∈ writes, IsRoute write.1)
    (hfound : ∀ write ∈ writes, write.1.getLast? = some manifestName → write.1 ∈ manifests) :
    Found after path manifests := by
  obtain ⟨hfits, base, children, hbase, hfolder, hopen, rfl⟩ := id h
  have hafter := hsaved.regular hbefore
  have hgrown := hsaved.grown hbefore
  have hbase' := hgrown.enters hbase
  obtain ⟨children', hfolder'⟩ := Node.contentAt_folder.mp (hbase'.isFolder hafter)
  have hnow : Found after path (manifestsIn children') :=
    ⟨hfits, base, children', hbase', hfolder',
      hopen.savedAll hbefore hbase hfolder hfolder' hsaved hroutes, rfl⟩
  suffices hsame : manifestsIn children' = manifestsIn children from hsame ▸ hnow
  refine manifestsIn_congr (hafter.proper.get? hfolder') (hbefore.proper.get? hfolder) ?_
  intro place
  rw [← mem_manifestsIn (hafter.proper.get? hfolder'),
    ← mem_manifestsIn (hbefore.proper.get? hfolder), hnow.mem_iff hafter hbase',
    h.mem_iff hbefore hbase]
  refine and_congr_left fun hmanifest => ?_
  constructor
  · rintro ⟨bytes, hfile⟩
    by_cases hplace : place ∈ writes.map Prod.fst
    · obtain ⟨write, hwrite, rfl⟩ := List.mem_map.mp hplace
      exact ((h.mem_iff hbefore hbase).mp (hfound write hwrite hmanifest.1)).1
    · have hother : base ++ place ∉ places := by
        rw [hsaved.places_under hbefore hbase hroutes]
        intro hmem
        obtain ⟨write, hwrite, heq⟩ := List.mem_map.mp hmem
        exact hplace (List.mem_map.mpr ⟨write, hwrite, List.append_cancel_left heq⟩)
      exact ⟨bytes, (hsaved.file_iff hbefore hother).mp hfile⟩
  · exact hgrown.file (base ++ place)

end ReleaseStamp.FileTree
