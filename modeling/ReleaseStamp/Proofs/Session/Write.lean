import ReleaseStamp.Proofs.FileTree.Follow
import ReleaseStamp.Proofs.Session

/-!
# Writing a file

A file that has been written is read back, and nothing is lost for it: besides the file there are
folders that have been missing above its path. A write that fails leaves no more than such folders.
This is so in every tree, whatever links it has.
-/
namespace ReleaseStamp

def Path.above (path : Path) : List Path :=
  match parent? path with
  | none => []
  | some parent => ancestors parent

namespace FileTree

variable {before between after tree : FileTree} {path : Path} {paths : List Path}
variable {place : Place}

/-- Folders have been added, each where one of the paths leads that has led nowhere. -/
structure MadeFor (paths : List Path) (before after : FileTree) : Prop
    extends MoreFolders before after where
  led : ∀ place, before.root.contentAt place = none → after.root.contentAt place ≠ none →
    ∃ path ∈ paths, before.pathExists path = false ∧
      ∃ children, after.find .look path = .ok (place, .folder children)

theorem MadeFor.refl (paths : List Path) (tree : FileTree) : MadeFor paths tree tree :=
  ⟨.refl tree, fun _ hnone hsome => absurd hnone hsome⟩

theorem MadeFor.trans (h : MadeFor paths before between) (h' : MadeFor paths between after) :
    MadeFor paths before after := by
  refine ⟨h.toMoreFolders.trans h'.toMoreFolders, fun place hnone hsome => ?_⟩
  by_cases hbetween : between.root.contentAt place = none
  · obtain ⟨path, hpath, hmissing, hfound⟩ := h'.led place hbetween hsome
    refine ⟨path, hpath, ?_, hfound⟩
    rw [Bool.eq_false_iff] at hmissing ⊢
    exact fun hthere => hmissing (h.toMoreFolders.extended.pathExists hthere)
  · obtain ⟨path, hpath, hmissing, children, hfound⟩ := h.led place hnone hbetween
    exact ⟨path, hpath, hmissing, h'.toMoreFolders.extended.find_folder hfound⟩

theorem MadeFor.mono {paths' : List Path} (h : MadeFor paths before after)
    (hpaths : paths ⊆ paths') :
    MadeFor paths' before after := by
  refine ⟨h.toMoreFolders, fun place hnone hsome => ?_⟩
  obtain ⟨path, hpath, hled⟩ := h.led place hnone hsome
  exact ⟨path, hpaths hpath, hled⟩

theorem MoreFolders.atHere (h : MoreFolders before after)
    (hhere : before.root.contentAt before.here = some .folder) :
    after.root.contentAt after.here = some .folder := by
  rw [h.here]
  exact h.kept _ _ hhere

theorem resolve_isFolder {purpose : Purpose} {target : Target}
    (hhere : tree.root.contentAt tree.here = some .folder)
    (h : tree.resolve purpose path = .ok target) :
    tree.root.contentAt target.folder = some .folder :=
  (resolve_eq_ok.mp h).2.isFolder (startOf_isFolder hhere path)

theorem makeFolder_madeFor (hhere : tree.root.contentAt tree.here = some .folder)
    (h : tree.makeFolder path = .ok after) : MadeFor [path] tree after := by
  obtain ⟨folder, name, slash, hresolve, hnone, rfl⟩ := makeFolder_iff.mp h
  have habove : tree.root.contentAt folder = some .folder := resolve_isFolder hhere hresolve
  have hmore := moreFolders_put habove hnone
  have hget := Node.contentAt_none.mp hnone
  -- Nothing is there, so that looking leads to the same place as making.
  have hlook : tree.resolve .look path = .ok ⟨folder, some name, slash⟩ := by
    refine resolve_look hresolve fun link hlink => ?_
    cases hget.symm.trans hlink
  refine ⟨hmore, fun place hold hnew => ⟨path, List.mem_singleton_self path, ?_, ?_⟩⟩
  · rw [pathExists]
    cases hfind : tree.find .look path with
    | error fault => rfl
    | ok found =>
      obtain ⟨place', node⟩ := found
      obtain ⟨target, hresolve', rfl, hnode, _⟩ := find_eq_ok.mp hfind
      cases hlook.symm.trans hresolve'
      cases hget.symm.trans hnode
  · have hfree : tree.root.contentAt (folder ++ [name]) ≠ some .folder := by
      simp [hnone]
    have hcontent := fun other => Node.contentAt_put isLeaf_folder habove hfree other
    have hplace : place = folder ++ [name] := by
      by_contra hother
      rw [hcontent, if_neg hother] at hnew
      exact hnew hold
    have hfolder := hcontent place
    rw [if_pos hplace] at hfolder
    obtain ⟨children, hchildren⟩ := Node.contentAt_folder.mp hfolder
    exact ⟨children, find_eq_ok.mpr ⟨_, hmore.extended.resolve hlook, hplace, hchildren,
      fun _ => rfl⟩⟩

theorem makeFolders_madeFor (hhere : tree.root.contentAt tree.here = some .folder)
    (paths : List Path) : MadeFor paths tree (tree.makeFolders paths).2 := by
  have hstep : ∀ path ∈ paths, ∀ between made, MadeFor paths tree between →
      between.makeFolder path = .ok made → MadeFor paths tree made := by
    intro path hpath between made hbetween hmade
    have hone := makeFolder_madeFor (hbetween.atHere hhere) hmade
    exact hbetween.trans (hone.mono (List.cons_subset.mpr ⟨hpath, List.nil_subset paths⟩))
  exact makeFolders_preserves hstep (.refl paths tree)

theorem prepare_madeFor (hhere : tree.root.contentAt tree.here = some .folder) (path : Path) :
    MadeFor (Path.above path) tree (tree.prepare path).2 := by
  unfold prepare Path.above
  cases Path.parent? path with
  | none => exact .refl _ tree
  | some parent =>
    simp only
    split
    · exact .refl _ tree
    · exact makeFolders_madeFor hhere _

/-- The bytes are where the path leads, where there has been a file or nothing, and nothing else
has changed. -/
structure WrittenAt (before : FileTree) (path : Path) (bytes : ByteArray) (place : Place)
    (after : FileTree) : Prop where
  extended : Extended before after
  led : after.find .look path = .ok (place, .file bytes)
  old : before.root.contentAt place = none ∨ ∃ old, before.root.contentAt place = some (.file old)
  kept : ∀ other, other ≠ place → after.root.contentAt other = before.root.contentAt other

theorem writeBytes_writtenAt (hhere : tree.root.contentAt tree.here = some .folder)
    {bytes : ByteArray} (h : tree.writeBytes path bytes = .ok after) :
    ∃ place, WrittenAt tree path bytes place after := by
  obtain ⟨folder, name, slash, hresolve, hfree, _, hafter⟩ := writeBytes_eq_ok.mp h
  have habove : tree.root.contentAt folder = some .folder := resolve_isFolder hhere hresolve
  obtain ⟨hslash, hlink⟩ := (resolve_eq_ok.mp hresolve).2.of_write rfl
  have hlook := resolve_look hresolve hlink
  have hold : tree.root.contentAt (folder ++ [name]) = none ∨
      ∃ old, tree.root.contentAt (folder ++ [name]) = some (.file old) := by
    cases hnode : tree.root.get? (folder ++ [name]) with
    | none => exact Or.inl (Node.contentAt_none.mpr hnode)
    | some node =>
      cases node with
      | file old => exact Or.inr ⟨old, Node.contentAt_file.mpr hnode⟩
      | link link => exact absurd hnode (hlink link)
      | folder children => exact absurd (Node.contentAt_folder.mpr ⟨children, hnode⟩) hfree
  have hcontent : ∀ other, after.root.contentAt other =
      if other = folder ++ [name] then some (.file bytes) else tree.root.contentAt other := by
    intro other
    rw [hafter, Node.contentAt_put (isLeaf_file bytes) habove hfree]
    rfl
  have hfile := (hcontent (folder ++ [name])).trans (if_pos rfl)
  have hkept := fun other hother => (hcontent other).trans (if_neg hother)
  have hhere' : after.here = tree.here := by
    rw [hafter]
  have hsealed : after.sealed = tree.sealed := by
    rw [hafter]
  have hextended := extended_of_kept hhere' hsealed hfile hold hkept
  refine ⟨folder ++ [name], hextended, ?_, hold, hkept⟩
  refine find_eq_ok.mpr ⟨_, hextended.resolve hlook, rfl, Node.contentAt_file.mp hfile, ?_⟩
  intro hasked
  cases hasked.symm.trans hslash

/-- But for what has been written, nothing has changed, or folders have been made where they have
been missing above the path. -/
structure Leaves (before : FileTree) (path : Path) (written : List Place) (after : FileTree) :
    Prop where
  here : after.here = before.here
  sealed : after.sealed = before.sealed
  kept : ∀ place, place ∉ written → ∀ content, before.root.contentAt place = some content →
    after.root.contentAt place = some content
  made : ∀ place, place ∉ written → before.root.contentAt place = none →
    after.root.contentAt place ≠ none → ∃ above ∈ Path.above path, before.pathExists above = false ∧
      ∃ children, after.find .look above = .ok (place, .folder children)

theorem MadeFor.leaves (h : MadeFor (Path.above path) before after) :
    Leaves before path [] after :=
  ⟨h.here, h.sealed, fun place _ content hold => h.kept place content hold,
    fun place _ hold hnew => h.led place hold hnew⟩

theorem MadeFor.leaves_written {bytes : ByteArray} (h : MadeFor (Path.above path) before between)
    (hwritten : WrittenAt between path bytes place after) : Leaves before path [place] after := by
  refine ⟨hwritten.extended.here.trans h.here, hwritten.extended.sealed.trans h.sealed, ?_, ?_⟩
  · intro other hother content hold
    rw [hwritten.kept other (List.ne_of_not_mem_cons hother), h.kept other content hold]
  · intro other hother hold hnew
    rw [hwritten.kept other (List.ne_of_not_mem_cons hother)] at hnew
    obtain ⟨above, habove, hmissing, children, hfound⟩ := h.led other hold hnew
    exact ⟨above, habove, hmissing, hwritten.extended.find_folder hfound⟩

/-- Where a file or nothing is, there has been a file or nothing. -/
theorem MadeFor.absent_or_file (h : MadeFor paths before after)
    (hplace : after.root.contentAt place = none ∨
      ∃ old, after.root.contentAt place = some (.file old)) :
    before.root.contentAt place = none ∨ ∃ old, before.root.contentAt place = some (.file old) := by
  cases hold : before.root.contentAt place with
  | none => exact Or.inl rfl
  | some content =>
    have hkept := h.kept place content hold
    rcases hplace with hnone | ⟨bytes, hfile⟩
    · cases hnone.symm.trans hkept
    · exact Or.inr ⟨bytes, by rw [← hkept, hfile]⟩

theorem prepare_of_parent
    (h : ∀ parent, Path.parent? path = some parent → parent = "" ∨ tree.pathExists parent = true) :
    tree.prepare path = (.ok (), tree) := by
  unfold prepare
  cases hparent : Path.parent? path with
  | none => rfl
  | some parent => rcases h parent hparent with rfl | hthere <;> simp [*]

end FileTree

namespace Job

open FileTree (Leaves Place)

/-- A text that is written is read back, the file that the path leads to is all that is changed, and
besides it only folders are made that have been missing above the path. A write that fails makes no
more than such folders, and nothing at all if the folder of the file has been there. -/
theorem writeText_leaves (session : Session)
    (hhere : session.tree.root.contentAt session.tree.here = some .folder) (path : Path)
    (text : String) :
    (∀ after, (writeText path text).perform session = (.ok (), after) →
      (readText path).perform after = (.ok text, after) ∧
      ∃ place, after.tree.find .look path = .ok (place, .file text.toUTF8) ∧
        (session.tree.root.contentAt place = none ∨
          ∃ old, session.tree.root.contentAt place = some (.file old)) ∧
        Leaves session.tree path [place] after.tree) ∧
    ∀ error after, (writeText path text).perform session = (.error error, after) →
      Leaves session.tree path [] after.tree ∧
      ((∀ parent, Path.parent? path = some parent →
        parent = "" ∨ session.tree.pathExists parent = true) → after = session) := by
  have hmade := FileTree.prepare_madeFor hhere path
  have hthere : (∀ parent, Path.parent? path = some parent →
      parent = "" ∨ session.tree.pathExists parent = true) →
      session.tree.prepare path = (.ok (), session.tree) := FileTree.prepare_of_parent
  rw [perform_writeText]
  generalize hprepare : session.tree.prepare path = prepared at hmade hthere
  obtain ⟨outcome, made⟩ := prepared
  cases outcome with
  | error fault =>
    refine ⟨nofun, fun error after h => ?_⟩
    cases h
    refine ⟨hmade.leaves, fun hparent => ?_⟩
    cases hthere hparent
  | ok =>
    cases hwrite : made.writeText path text with
    | error fault =>
      simp only [hwrite]
      refine ⟨nofun, fun error after h => ?_⟩
      cases h
      refine ⟨hmade.leaves, fun hparent => ?_⟩
      cases hthere hparent
      rfl
    | ok written =>
      simp only [hwrite]
      refine ⟨fun after h => ?_, nofun⟩
      cases h
      obtain ⟨place, hplace⟩ := FileTree.writeBytes_writtenAt (hmade.atHere hhere) hwrite
      refine ⟨?_, place, hplace.led, ?_, hmade.leaves_written hplace⟩
      · rw [perform_readText, FileTree.readText_eq_ok.mpr ⟨place, hplace.led⟩]
        rfl
      · exact hmade.absent_or_file hplace.old

def linkedFolder : FileTree where
  root := .folder [("d", .folder []), ("l", .link "d")]

/-- Through the link a file is written. With a slash at the end only the folder above is made. -/
theorem writeText_leaves_linkedFolder :
    linkedFolder.root.contentAt linkedFolder.here = some .folder ∧
    (∃ after place, (writeText "l/x/f" "v").perform { tree := linkedFolder } = (.ok (), after) ∧
      (readText "l/x/f").perform after = (.ok "v", after) ∧
      after.tree.find .look "l/x/f" = .ok (place, .file "v".toUTF8) ∧
      Leaves linkedFolder "l/x/f" [place] after.tree) ∧
    ∃ after, (writeText "l/x/f/" "v").perform { tree := linkedFolder } =
        (.error (faultAt "l/x/f/" .isFolder), after) ∧
      after.tree.root.contentAt ["d", "x"] = some .folder ∧
      Leaves linkedFolder "l/x/f/" [] after.tree := by
  have hhere : linkedFolder.root.contentAt linkedFolder.here = some .folder := rfl
  have hok : ((writeText "l/x/f" "v").perform { tree := linkedFolder }).1 = .ok () := by
    decide +kernel
  have herror : ((writeText "l/x/f/" "v").perform { tree := linkedFolder }).1 =
      .error (faultAt "l/x/f/" .isFolder) := by
    decide +kernel
  have hfolder : ((writeText "l/x/f/" "v").perform { tree := linkedFolder }).2.tree.root.contentAt
      ["d", "x"] = some .folder := by
    decide +kernel
  obtain ⟨after, hperform⟩ := perform_of_fst hok
  obtain ⟨failed, hfailed⟩ := perform_of_fst herror
  rw [hfailed] at hfolder
  obtain ⟨hread, place, hfound, _, hleaves⟩ :=
    (writeText_leaves { tree := linkedFolder } hhere "l/x/f" "v").1 after hperform
  have hleft := (writeText_leaves { tree := linkedFolder } hhere "l/x/f/" "v").2 _ failed hfailed
  exact ⟨hhere, ⟨after, place, hperform, hread, hfound, hleaves⟩, failed, hfailed, hfolder, hleft.1⟩

end Job

end ReleaseStamp
