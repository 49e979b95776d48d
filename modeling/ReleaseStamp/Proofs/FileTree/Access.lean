import ReleaseStamp.FileTree.Access
import ReleaseStamp.Proofs.Text.Bytes
import ReleaseStamp.Proofs.FileTree.Grown

/-!
# Reading, writing and making folders

What an access gives and leaves, said by the places of a tree without links.
-/
namespace ReleaseStamp.FileTree

open ReleaseStamp.Path (IsName)

variable {tree a b : FileTree} {path name last : Path} {folder : Place} {new : Node}

/-- A leaf can be put under a name of a folder that is not the name of a folder. -/
structure Free (root : Node) (folder : Place) (name : Path) : Prop where
  isName : IsName name
  above : root.contentAt folder = some .folder
  free : root.contentAt (folder ++ [name]) ≠ some .folder

theorem Free.contentAt (h : Free tree.root folder name) (hnew : new.IsLeaf) (place : Place) :
    (tree.root.put new (folder ++ [name])).contentAt place =
      if place = folder ++ [name] then some new.content else tree.root.contentAt place :=
  Node.contentAt_put hnew h.above h.free place

theorem Free.regular (h : Free tree.root folder name) (htree : Regular tree) (hnew : new.IsLeaf) :
    Regular { tree with root := tree.root.put new (folder ++ [name]) } := by
  refine ⟨htree.proper.put hnew.proper folder h.isName,
    htree.linkless.put hnew.linkless folder name,
    ?_⟩
  rw [h.contentAt hnew, if_neg]
  · exact htree.here
  · intro hhere
    exact h.free (hhere ▸ htree.here)

theorem Node.IsLeaf.content_cases (h : new.IsLeaf) :
    (new.isFolder = false ∧ ∃ bytes, new.content = .file bytes) ∨
      new.isFolder = true ∧ new.content = .folder := by
  rcases h with ⟨bytes, rfl⟩ | rfl
  · exact Or.inl ⟨rfl, bytes, rfl⟩
  · exact Or.inr ⟨rfl, rfl⟩

/-- Leaves of one kind at the same place keep one tree larger than the other. -/
theorem Grown.put {x y : Node} (h : Grown a b) (ha : Free a.root folder name)
    (hb : Free b.root folder name) (hx : x.IsLeaf) (hy : y.IsLeaf)
    (hkind : x.isFolder = y.isFolder) :
    Grown { a with root := a.root.put x (folder ++ [name]) }
      { b with root := b.root.put y (folder ++ [name]) } := by
  refine ⟨h.here, h.sealed, ?_, ?_⟩
  · intro place
    rw [ha.contentAt hx, hb.contentAt hy]
    split
    · intro hfolder
      rcases hx.content_cases with ⟨_, bytes, hcontent⟩ | ⟨hfx, _⟩
      · rw [hcontent] at hfolder
        cases hfolder
      · rcases hy.content_cases with ⟨hfy, _⟩ | ⟨_, hcontent⟩
        · rw [hkind, hfy] at hfx
          cases hfx
        · rw [hcontent]
    · exact h.folder place
  · intro place
    rw [ha.contentAt hx, hb.contentAt hy]
    split
    · rintro ⟨bytes, hfile⟩
      rcases hx.content_cases with ⟨hfx, _⟩ | ⟨_, hcontent⟩
      · rcases hy.content_cases with ⟨_, bytes', hcontent⟩ | ⟨hfy, _⟩
        · exact ⟨bytes', by rw [hcontent]⟩
        · rw [hkind, hfy] at hfx
          cases hfx
      · rw [hcontent] at hfile
        cases hfile
    · exact h.file place

theorem Alike.free (h : Alike a b) (ha : Free a.root folder name) : Free b.root folder name :=
  ⟨ha.isName, h.grown.folder _ ha.above, fun hb => ha.free (h.back.folder _ hb)⟩

theorem Alike.put {x y : Node} (h : Alike a b) (ha : Free a.root folder name) (hx : x.IsLeaf)
    (hy : y.IsLeaf) (hkind : x.isFolder = y.isFolder) :
    Alike { a with root := a.root.put x (folder ++ [name]) }
      { b with root := b.root.put y (folder ++ [name]) } :=
  ⟨ha.regular h.left hx, (h.free ha).regular h.right hy, h.grown.put ha (h.free ha) hx hy hkind,
    h.back.put (h.free ha) ha hy hx hkind.symm⟩

theorem isLeaf_file (bytes : ByteArray) : (Node.file bytes).IsLeaf := Or.inl ⟨bytes, rfl⟩

theorem isLeaf_folder : (Node.folder []).IsLeaf := Or.inr rfl

theorem readText_eq_ok {text : String} : tree.readText path = .ok text ↔
    ∃ place, tree.find .look path = .ok (place, .file text.toUTF8) := by
  constructor
  · intro h
    cases hfind : tree.find .look path with
    | error fault => simp [readText, readBytes, hfind, bind, Except.bind] at h
    | ok found =>
      obtain ⟨place, node⟩ := found
      cases node with
      | file bytes =>
        simp only [readText, readBytes, hfind, bind, Except.bind] at h
        split at h
        · rename_i found hfound
          cases h
          rw [Text.fromUTF8?_iff] at hfound
          exact ⟨place, by rw [hfound]⟩
        · cases h
      | link target => simp [readText, readBytes, hfind, bind, Except.bind] at h
      | folder children => simp [readText, readBytes, hfind, bind, Except.bind] at h
  · rintro ⟨place, hfind⟩
    have htext : String.fromUTF8? text.toUTF8 = some text :=
      Text.fromUTF8?_iff.mpr rfl
    simp only [readText, readBytes, hfind, bind, Except.bind, htext]

theorem Content.file_toUTF8_inj {first second : String} :
    Content.file first.toUTF8 = Content.file second.toUTF8 ↔ first = second := by
  rw [Content.file.injEq, String.toUTF8_eq_toByteArray, String.toUTF8_eq_toByteArray,
    String.toByteArray_inj]

theorem readText_iff (htree : Regular tree) (hends : Path.Ends path last) {text : String} :
    tree.readText path = .ok text ↔ ∃ folder, Leads tree path folder last ∧
      tree.root.contentAt (folder ++ [last]) = some (.file text.toUTF8) := by
  rw [readText_eq_ok]
  constructor
  · rintro ⟨place, hfind⟩
    obtain ⟨folder, hleads, rfl, hnode⟩ := leads_of_find htree hends hfind
    exact ⟨folder, hleads, Node.contentAt_file.mpr hnode⟩
  · rintro ⟨folder, hleads, hfile⟩
    exact ⟨folder ++ [last], hleads.find htree .look (Node.contentAt_file.mp hfile)⟩

theorem writeBytes_eq_ok {bytes : ByteArray} {after : FileTree} :
    tree.writeBytes path bytes = .ok after ↔ ∃ folder name slash,
      tree.resolve .write path = .ok ⟨folder, some name, slash⟩ ∧
      tree.root.contentAt (folder ++ [name]) ≠ some .folder ∧ folder ++ [name] ∉ tree.sealed ∧
      after = { tree with root := tree.root.put (.file bytes) (folder ++ [name]) } := by
  constructor
  · intro h
    cases hresolve : tree.resolve .write path with
    | error fault => simp [writeBytes, hresolve, bind, Except.bind] at h
    | ok target =>
      obtain ⟨folder, found, slash⟩ := target
      cases found with
      | none => simp [writeBytes, hresolve, bind, Except.bind] at h
      | some name =>
        simp only [writeBytes, hresolve, bind, Except.bind, Target.place, Option.toList,
          List.contains_iff_mem] at h
        split at h
        · cases h
        · cases h
        · rename_i hno
          split at h
          · cases h
          · rename_i hopen
            refine ⟨folder, name, slash, rfl, ?_, hopen, (Except.ok.inj h).symm⟩
            intro hfolder
            obtain ⟨children, hchildren⟩ := Node.contentAt_folder.mp hfolder
            exact hno children hchildren
  · rintro ⟨folder, name, slash, hresolve, hfree, hopen, rfl⟩
    -- With this the match of the definition has one case only.
    have hno : ∀ children, tree.root.get? (folder ++ [name]) ≠ some (.folder children) :=
      fun children hchildren => hfree (Node.contentAt_folder.mpr ⟨children, hchildren⟩)
    simp only [writeBytes, hresolve, bind, Except.bind, Target.place, Option.toList,
      List.contains_iff_mem, hopen, if_false]

theorem writeBytes_iff (htree : Regular tree) {bytes : ByteArray} {after : FileTree} :
    tree.writeBytes path bytes = .ok after ↔ ∃ folder last, Leads tree path folder last ∧
      tree.root.contentAt (folder ++ [last]) ≠ some .folder ∧ folder ++ [last] ∉ tree.sealed ∧
      after = { tree with root := tree.root.put (.file bytes) (folder ++ [last]) } := by
  rw [writeBytes_eq_ok]
  constructor
  · rintro ⟨folder, last, slash, hresolve, hfree, hopen, hafter⟩
    obtain ⟨_, hleads, htarget⟩ := leads_of_resolve_write htree hresolve rfl
    cases htarget
    exact ⟨folder, last, hleads, hfree, hopen, hafter⟩
  · rintro ⟨folder, last, hleads, hfree, hopen, hafter⟩
    exact ⟨folder, last, false, hleads.resolve htree .write, hfree, hopen, hafter⟩

/-- The second tree has more folders than the first, and all else alike. -/
structure MoreFolders (before after : FileTree) : Prop where
  here : after.here = before.here
  sealed : after.sealed = before.sealed
  kept : ∀ place content, before.root.contentAt place = some content →
    after.root.contentAt place = some content
  fresh : ∀ place, before.root.contentAt place = none →
    after.root.contentAt place = none ∨ after.root.contentAt place = some .folder

theorem MoreFolders.refl (tree : FileTree) : MoreFolders tree tree :=
  ⟨rfl, rfl, fun _ _ h => h, fun _ h => Or.inl h⟩

theorem MoreFolders.trans {first second third : FileTree} (h : MoreFolders first second)
    (h' : MoreFolders second third) : MoreFolders first third := by
  refine ⟨h'.here.trans h.here, h'.sealed.trans h.sealed, ?_, ?_⟩
  · intro place content hplace
    exact h'.kept place content (h.kept place content hplace)
  · intro place hplace
    rcases h.fresh place hplace with hnone | hfolder
    · exact h'.fresh place hnone
    · exact Or.inr (h'.kept place _ hfolder)

theorem MoreFolders.grown {before after : FileTree} (h : MoreFolders before after) :
    Grown before after :=
  ⟨h.here, h.sealed, fun place hplace => h.kept place _ hplace,
    fun place ⟨bytes, hplace⟩ => ⟨bytes, h.kept place _ hplace⟩⟩

theorem makeFolder_iff {made : FileTree} :
    tree.makeFolder path = .ok made ↔ ∃ folder name slash,
      tree.resolve .make path = .ok ⟨folder, some name, slash⟩ ∧
      tree.root.contentAt (folder ++ [name]) = none ∧
      made = { tree with root := tree.root.put (.folder []) (folder ++ [name]) } := by
  constructor
  · intro h
    cases hresolve : tree.resolve .make path with
    | error fault => simp [makeFolder, hresolve, bind, Except.bind] at h
    | ok target =>
      obtain ⟨folder, found, slash⟩ := target
      cases found with
      | none => simp [makeFolder, hresolve, bind, Except.bind] at h
      | some name =>
        cases hnode : tree.root.get? (folder ++ [name]) with
        | none =>
          refine ⟨folder, name, slash, rfl, Node.contentAt_none.mpr hnode, ?_⟩
          simpa [makeFolder, hresolve, Target.place, hnode, bind, Except.bind] using h.symm
        | some node => simp [makeFolder, hresolve, Target.place, hnode, bind, Except.bind] at h
  · rintro ⟨folder, name, slash, hresolve, hnone, rfl⟩
    rw [Node.contentAt_none] at hnone
    simp [makeFolder, hresolve, Target.place, hnone, bind, Except.bind]

theorem makeFolder_error {fault : Fault} (h : tree.makeFolder path = .error fault) :
    tree.resolve .make path = .error fault ∨
      (∃ target, tree.resolve .make path = .ok target) ∧ fault = .occupied := by
  cases hresolve : tree.resolve .make path with
  | error found =>
    left
    simpa [makeFolder, hresolve, bind, Except.bind] using h
  | ok target =>
    right
    refine ⟨⟨target, rfl⟩, ?_⟩
    simp only [makeFolder, hresolve, bind, Except.bind] at h
    split at h
    · cases h
    · cases h
      rfl

theorem free_of_none (htree : Regular tree) {slash : Bool}
    (hresolve : tree.resolve .make path = .ok ⟨folder, some name, slash⟩)
    (hnone : tree.root.contentAt (folder ++ [name]) = none) : Free tree.root folder name := by
  obtain ⟨hname, habove⟩ := resolve_name htree hresolve rfl
  exact ⟨hname, habove, by simp [hnone]⟩

/-- An empty folder where nothing has been. -/
theorem moreFolders_put (habove : tree.root.contentAt folder = some .folder)
    (hnone : tree.root.contentAt (folder ++ [name]) = none) :
    MoreFolders tree { tree with root := tree.root.put (.folder []) (folder ++ [name]) } := by
  have hold : tree.root.contentAt (folder ++ [name]) ≠ some .folder := by
    rw [hnone]
    exact nofun
  refine ⟨rfl, rfl, ?_, ?_⟩
  · intro place content hplace
    rw [Node.contentAt_put isLeaf_folder habove hold, if_neg]
    · exact hplace
    · rintro rfl
      cases hnone.symm.trans hplace
  · intro place hplace
    rw [Node.contentAt_put isLeaf_folder habove hold]
    split
    · exact Or.inr rfl
    · exact Or.inl hplace

theorem makeFolder_moreFolders (htree : Regular tree) {made : FileTree}
    (h : tree.makeFolder path = .ok made) : Regular made ∧ MoreFolders tree made := by
  obtain ⟨folder, name, slash, hresolve, hnone, rfl⟩ := makeFolder_iff.mp h
  have hfree := free_of_none htree hresolve hnone
  exact ⟨hfree.regular htree isLeaf_folder, moreFolders_put hfree.above hnone⟩

/-- What each of the folders that are made keeps is kept by making them all, or some of them. -/
theorem makeFolders_preserves {keeps : FileTree → Prop} {paths : List Path}
    (hstep : ∀ path ∈ paths, ∀ tree made, keeps tree → tree.makeFolder path = .ok made → keeps made)
    (h : keeps tree) : keeps (tree.makeFolders paths).2 := by
  induction paths with
  | nil => exact h
  | cons path above ih =>
    rw [List.forall_mem_cons] at hstep
    have habove := ih hstep.2
    rw [makeFolders]
    split
    · exact h
    · split
      · rename_i made hmade
        exact hstep.1 tree made h hmade
      · split
        · rename_i fault made hfailed
          rw [hfailed] at habove
          exact habove
        · rename_i made hdone
          rw [hdone] at habove
          split
          · rename_i last hlast
            exact hstep.1 made last habove hlast
          · exact habove
      · exact h

theorem makeFolders_moreFolders (htree : Regular tree) (paths : List Path) :
    Regular (tree.makeFolders paths).2 ∧ MoreFolders tree (tree.makeFolders paths).2 := by
  have hstep : ∀ path ∈ paths, ∀ between made, Regular between ∧ MoreFolders tree between →
      between.makeFolder path = .ok made → Regular made ∧ MoreFolders tree made := by
    rintro path - between made ⟨hbetween, hmore⟩ hmade
    obtain ⟨hregular, hmore'⟩ := makeFolder_moreFolders hbetween hmade
    exact ⟨hregular, hmore.trans hmore'⟩
  exact makeFolders_preserves hstep ⟨htree, .refl tree⟩

theorem Alike.makeFolder_ok (h : Alike a b) {made : FileTree}
    (hmade : a.makeFolder path = .ok made) :
    ∃ made', b.makeFolder path = .ok made' ∧ Alike made made' := by
  obtain ⟨folder, name, slash, hresolve, hnone, rfl⟩ := makeFolder_iff.mp hmade
  have hfree := free_of_none h.left hresolve hnone
  rw [h.resolve] at hresolve
  refine ⟨_, makeFolder_iff.mpr ⟨folder, name, slash, hresolve, h.none_of_none hnone, rfl⟩, ?_⟩
  exact h.put hfree isLeaf_folder isLeaf_folder rfl

theorem Alike.makeFolder_error (h : Alike a b) {fault : Fault}
    (hmade : a.makeFolder path = .error fault) : b.makeFolder path = .error fault := by
  cases hother : b.makeFolder path with
  | ok made =>
    obtain ⟨made', hback, _⟩ := h.symm.makeFolder_ok hother
    rw [hmade] at hback
    cases hback
  | error fault' =>
    have hresolve := h.resolve .make path
    rcases FileTree.makeFolder_error hmade with ha | ⟨⟨target, ha⟩, rfl⟩
    · rcases FileTree.makeFolder_error hother with hb | ⟨⟨target', hb⟩, rfl⟩
      · rw [ha, hb] at hresolve
        cases hresolve
        rfl
      · rw [ha, hb] at hresolve
        cases hresolve
    · rcases FileTree.makeFolder_error hother with hb | ⟨⟨target', hb⟩, rfl⟩
      · rw [ha, hb] at hresolve
        cases hresolve
      · rfl

theorem Alike.isFolderPath (h : Alike a b) (path : Path) :
    a.isFolderPath path = b.isFolderPath path := by
  rcases h.find_cases .look path with ⟨fault, ha, hb⟩ | ⟨place, node, node', ha, hb, hkind⟩
  · simp [FileTree.isFolderPath, ha, hb]
  · simp [FileTree.isFolderPath, ha, hb, hkind]

theorem Alike.pathExists (h : Alike a b) (path : Path) :
    a.pathExists path = b.pathExists path := by
  rcases h.find_cases .look path with ⟨fault, ha, hb⟩ | ⟨place, node, node', ha, hb, _⟩ <;>
    simp [FileTree.pathExists, ha, hb, Except.isOk, Except.toBool]

theorem Alike.makeFolders (h : Alike a b) (paths : List Path) :
    (a.makeFolders paths).1 = (b.makeFolders paths).1 ∧
      Alike (a.makeFolders paths).2 (b.makeFolders paths).2 := by
  induction paths generalizing a b with
  | nil => exact ⟨rfl, h⟩
  | cons path above ih =>
    rw [FileTree.makeFolders, FileTree.makeFolders]
    split
    · exact ⟨rfl, h⟩
    · cases hmade : a.makeFolder path with
      | ok made =>
        obtain ⟨made', hb, hmade'⟩ := h.makeFolder_ok hmade
        rw [hb]
        exact ⟨rfl, hmade'⟩
      | error fault =>
        rw [h.makeFolder_error hmade]
        by_cases hmissing : fault = .missing
        · subst hmissing
          obtain ⟨houtcome, habove⟩ := ih h
          generalize a.makeFolders above = first at houtcome habove
          generalize b.makeFolders above = second at houtcome habove
          obtain ⟨outcome, first⟩ := first
          obtain ⟨outcome', second⟩ := second
          cases houtcome
          cases outcome with
          | error fault => exact ⟨rfl, habove⟩
          | ok =>
            simp only
            cases hlast : first.makeFolder path with
            | ok made =>
              obtain ⟨made', hlast', hmade'⟩ := habove.makeFolder_ok hlast
              rw [hlast']
              exact ⟨rfl, hmade'⟩
            | error fault =>
              rw [habove.makeFolder_error hlast, habove.isFolderPath]
              exact ⟨rfl, habove⟩
        · rw [h.isFolderPath]
          cases fault <;> first | exact absurd rfl hmissing | exact ⟨rfl, h⟩

end ReleaseStamp.FileTree
