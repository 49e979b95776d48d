import ReleaseStamp.Proofs.FileTree.Follow
import ReleaseStamp.Proofs.FileTree.Overwrite

/-!
# Trees that differ in one file

Two trees of one shape are walked alike, whatever their files hold. Reading another file and writing
any file keeps them apart in the one file only.
-/
namespace ReleaseStamp.FileTree

mutual

def Node.emptied : Node → Node
  | .file _ => .file .empty
  | .link target => .link target
  | .folder children => .folder (emptiedChildren children)

def emptiedChildren : List (Path × Node) → List (Path × Node)
  | [] => []
  | (name, node) :: rest => (name, node.emptied) :: emptiedChildren rest

end

mutual

theorem walkAt_emptied (path name : Path) (node : Node) :
    walkAt path name node.emptied = walkAt path name node := by
  match node with
  | .file bytes => rfl
  | .link target => rfl
  | .folder children => rw [Node.emptied, walkAt, walkAt, walkIn_emptied path children]

theorem walkIn_emptied (path : Path) (children : List (Path × Node)) :
    walkIn path (emptiedChildren children) = walkIn path children := by
  match children with
  | [] => rfl
  | (name, node) :: rest =>
    rw [emptiedChildren, walkIn, walkIn, walkAt_emptied _ name node, walkIn_emptied path rest]

end

theorem name_of_mem_emptied {children : List (Path × Node)} {child : Path × Node}
    (h : child ∈ emptiedChildren children) : ∃ node, (child.1, node) ∈ children := by
  induction children with
  | nil => cases h
  | cons first rest ih =>
    obtain ⟨name, node⟩ := first
    rw [emptiedChildren] at h
    rcases List.mem_cons.mp h with rfl | h
    · exact ⟨node, List.mem_cons_self⟩
    · obtain ⟨node', hmem⟩ := ih h
      exact ⟨node', List.mem_cons_of_mem _ hmem⟩

mutual

theorem Node.Proper.emptied {node : Node} (h : node.Proper) : node.emptied.Proper := by
  match node with
  | .file bytes => trivial
  | .link target => trivial
  | .folder children => exact ProperChildren.emptied h

theorem ProperChildren.emptied {children : List (Path × Node)} (h : ProperChildren children) :
    ProperChildren (emptiedChildren children) := by
  match children with
  | [] => trivial
  | (name, node) :: rest =>
    obtain ⟨hname, hless, hnode, hrest⟩ := h
    refine ⟨hname, fun child hchild => ?_, hnode.emptied, ProperChildren.emptied hrest⟩
    obtain ⟨node', hmem⟩ := name_of_mem_emptied hchild
    exact hless (child.1, node') hmem

end

theorem lookup_emptied (children : List (Path × Node)) (name : Path) :
    (emptiedChildren children).lookup name = (children.lookup name).map Node.emptied := by
  induction children with
  | nil => rfl
  | cons child rest ih =>
    rw [emptiedChildren, List.lookup_cons, List.lookup_cons]
    split
    · rfl
    · exact ih

theorem Node.get?_emptied (node : Node) (place : Place) :
    node.emptied.get? place = (node.get? place).map Node.emptied := by
  induction place generalizing node with
  | nil => rw [get?_nil, get?_nil, Option.map_some]
  | cons name rest ih =>
    cases node with
    | file bytes => rfl
    | link target => rfl
    | folder children =>
      rw [emptied, get?_folder, get?_folder, lookup_emptied]
      cases children.lookup name with
      | none => rfl
      | some child => exact ih child

variable {a b : FileTree} {path : Path}

theorem Alike.emptied (h : Alike a b) : a.root.emptied = b.root.emptied := by
  apply Node.Proper.ext h.left.proper.emptied h.right.proper.emptied
  intro place
  rw [Node.contentAt, Node.contentAt, Node.get?_emptied, Node.get?_emptied]
  rcases h.get?_cases place with
      ⟨ha, hb⟩ | ⟨bytes, bytes', ha, hb⟩ | ⟨children, children', ha, hb⟩ <;>
    rw [ha, hb] <;> rfl

/-- A walk does not depend on what the files hold. -/
theorem Alike.walk (h : Alike a b) (path : Path) : a.walk path = b.walk path := by
  unfold FileTree.walk
  rcases h.find_cases .inspect path with ⟨fault, ha, hb⟩ | ⟨place, node, node', ha, hb, hkind⟩
  · rw [ha, hb]
  · obtain ⟨_, _, _, hnode⟩ := resolve_of_find ha
    obtain ⟨_, _, _, hnode'⟩ := resolve_of_find hb
    have hsame := congrArg (·.get? place) h.emptied
    simp only [Node.get?_emptied, hnode, hnode', Option.map_some, Option.some.injEq] at hsame
    rw [ha, hb]
    cases node with
    | file bytes =>
      cases node' with
      | file bytes' => rfl
      | link target => cases hsame
      | folder children => cases hsame
    | link target => exact absurd hnode (h.left.linkless.get? place target)
    | folder children =>
      cases node' with
      | file bytes' => cases hsame
      | link target => cases hsame
      | folder children' =>
        have hchildren : emptiedChildren children = emptiedChildren children' :=
          Node.folder.inj hsame
        simp only
        rw [← walkIn_emptied, hchildren, walkIn_emptied]

/-- Trees of one shape that hold the same but for the file at some names below a folder. -/
structure Beside (path : Path) (base names : Place) (a b : FileTree) : Prop where
  alike : Alike a b
  enters : Enters a path base
  same : ∀ place, place ≠ base ++ names → b.root.contentAt place = a.root.contentAt place

variable {base names other : Place} {a' b' : FileTree} {target : Path} {text : String}

/-- Another text in a file that can be read. -/
theorem beside_of_same {place : Place} {text' : String} (ha : Regular a) (hb : Regular b)
    (hhere : b.here = a.here) (hsealed : b.sealed = a.sealed) (hroute : IsRoute names)
    (hfind : a.find .look (below path names) = .ok (place, .file text.toUTF8))
    (hplace : b.root.contentAt place = some (.file text'.toUTF8))
    (hsame : ∀ other, other ≠ place → b.root.contentAt other = a.root.contentAt other) :
    ∃ base, place = base ++ names ∧ Beside path base names a b ∧ Holds a path names text ∧
      Holds b path names text' := by
  have hholds : Holds a path names text := readText_eq_ok.mpr ⟨place, hfind⟩
  obtain ⟨base, hbase⟩ := hholds.enters ha hroute
  obtain rfl := find_below ha hbase hroute hfind
  obtain ⟨hfits, hshort, hfile⟩ := (readText_below_iff ha hbase hroute).mp hholds
  -- Each tree is the other one with the file written over.
  have hgrown : Grown a b :=
    (extended_of_kept hhere hsealed hplace (Or.inr ⟨_, hfile⟩) hsame).toGrown
  have hback : Grown b a :=
    (extended_of_kept hhere.symm hsealed.symm hfile (Or.inr ⟨_, hplace⟩)
      fun other hother => (hsame other hother).symm).toGrown
  exact ⟨base, rfl, ⟨⟨ha, hb, hgrown, hback⟩, hbase, hsame⟩, hholds,
    (readText_below_iff hb (hgrown.enters hbase) hroute).mpr ⟨hfits, hshort, hplace⟩⟩

theorem Beside.readText (h : Beside path base names a b) (hroute : IsRoute other)
    (hother : other ≠ names) : b.readText (below path other) = a.readText (below path other) := by
  refine h.alike.readText_below h.enters hroute (h.same _ ?_)
  exact fun hplace => hother (List.append_cancel_left hplace)

theorem Beside.moreFolders (h : Beside path base names a b) (ha : MoreFolders a a')
    (hb : MoreFolders b b') (halike : Alike a' b') : Beside path base names a' b' := by
  refine ⟨halike, ha.grown.enters h.enters, fun place hplace => ?_⟩
  have hsame := h.same place hplace
  cases hold : a.root.contentAt place with
  | some content => rw [ha.kept place content hold, hb.kept place content (hsame.trans hold)]
  | none =>
    rcases ha.fresh place hold with hnone | hfolder
    · rw [hnone, halike.none_of_none hnone]
    · rw [hfolder, halike.grown.folder place hfolder]

theorem Beside.prepare (h : Beside path base names a b) (target : Path) :
    (a.prepare target).1 = (b.prepare target).1 ∧
      Beside path base names (a.prepare target).2 (b.prepare target).2 := by
  obtain ⟨houtcome, halike⟩ := h.alike.prepare target
  exact ⟨houtcome, h.moreFolders (prepare_moreFolders h.alike.left target).2
    (prepare_moreFolders h.alike.right target).2 halike⟩

theorem Beside.put {folder : Place} {name : Path} (h : Beside path base names a b)
    (hfree : Free a.root folder name) (hopen : folder ++ [name] ∉ a.sealed) (text : String) :
    Beside path base names
      { a with root := a.root.put (.file text.toUTF8) (folder ++ [name]) }
      { b with root := b.root.put (.file text.toUTF8) (folder ++ [name]) } := by
  have hfile := isLeaf_file text.toUTF8
  refine ⟨h.alike.put hfree hfile hfile rfl,
    (hfree.writes h.alike.left fun hsealed => absurd hsealed hopen).grown.enters h.enters,
    fun place hplace => ?_⟩
  rw [hfree.contentAt hfile, (h.alike.free hfree).contentAt hfile, h.same place hplace]

/-- Writing a text, to any path, ends alike. -/
theorem Beside.writeText (h : Beside path base names a b) (target : Path) (text : String) :
    (∃ fault, a.writeText target text = .error fault ∧ b.writeText target text = .error fault) ∨
    ∃ a' b', a.writeText target text = .ok a' ∧ b.writeText target text = .ok b' ∧
      Beside path base names a' b' := by
  unfold FileTree.writeText writeBytes
  rw [← h.alike.resolve]
  cases hresolve : a.resolve .write target with
  | error fault => exact Or.inl ⟨fault, rfl, rfl⟩
  | ok found =>
    obtain ⟨folder, last, slash⟩ := found
    cases last with
    | none => exact Or.inl ⟨.isFolder, rfl, rfl⟩
    | some name =>
      obtain ⟨hname, habove⟩ := resolve_name h.alike.left hresolve rfl
      have hput := fun hfree hopen => h.put ⟨hname, habove, hfree⟩ hopen text
      simp only [bind, Except.bind, Target.place, Option.toList, List.contains_iff_mem]
      by_cases hsealed : folder ++ [name] ∈ a.sealed
      · have hsealed' : folder ++ [name] ∈ b.sealed := h.alike.grown.sealed.symm ▸ hsealed
        left
        rcases h.alike.get?_cases (folder ++ [name]) with
            ⟨ha, hb⟩ | ⟨bytes, bytes', ha, hb⟩ | ⟨children, children', ha, hb⟩ <;>
          simp [ha, hb, hsealed, hsealed']
      · have hsealed' : folder ++ [name] ∉ b.sealed := h.alike.grown.sealed.symm ▸ hsealed
        rcases h.alike.get?_cases (folder ++ [name]) with
          ⟨ha, hb⟩ | ⟨bytes, bytes', ha, hb⟩ | ⟨children, children', ha, hb⟩
        · rw [ha, hb, if_neg hsealed, if_neg hsealed']
          exact Or.inr ⟨_, _, rfl, rfl, hput (by simp [Node.contentAt, ha]) hsealed⟩
        · rw [ha, hb, if_neg hsealed, if_neg hsealed']
          exact Or.inr ⟨_, _, rfl, rfl, hput (by simp [Node.contentAt, ha, Node.content]) hsealed⟩
        · rw [ha, hb]
          exact Or.inl ⟨.isFolder, rfl, rfl⟩

end ReleaseStamp.FileTree
