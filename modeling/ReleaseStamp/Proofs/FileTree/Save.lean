import ReleaseStamp.Proofs.FileTree.Access

/-!
# Saving files

A file is saved after the folders that its path needs have been made. Saving a list of files again,
with the same or with other texts, gives what saving the last texts at once would have given: each
path leads to where it has led before, and every text is replaced as a whole.
-/
namespace ReleaseStamp.FileTree

def prepare (tree : FileTree) (path : Path) : Except Fault Unit × FileTree :=
  match Path.parent? path with
  | none => (.ok (), tree)
  | some folder =>
    if folder.isEmpty || tree.pathExists folder then (.ok (), tree) else tree.makePath folder

/-- A place can hold a text: if it is sealed, it holds the text already. -/
def Admits (tree : FileTree) (place : Place) (text : String) : Prop :=
  place ∈ tree.sealed → tree.root.contentAt place = some (.file text.toUTF8)

/-- Saving a text under a path writes the file at a place, where that is needed. -/
inductive Saved (before : FileTree) (path : Path) (text : String) : Place → FileTree → Prop where
  | intro {ready : FileTree} {folder : Place} {last : Path} :
      before.prepare path = (.ok (), ready) → Leads ready path folder last →
      ready.root.contentAt (folder ++ [last]) ≠ some .folder →
      Admits ready (folder ++ [last]) text → Saved before path text (folder ++ [last])
        { ready with root := ready.root.put (.file text.toUTF8) (folder ++ [last]) }

inductive SavedAll : FileTree → List (Path × String) → List Place → FileTree → Prop where
  | nil {tree} : SavedAll tree [] [] tree
  | cons {before between after path text place writes places} :
      Saved before path text place between → SavedAll between writes places after →
      SavedAll before ((path, text) :: writes) (place :: places) after

variable {a b tree before after : FileTree} {path : Path} {text : String} {place : Place}

theorem prepare_moreFolders (htree : Regular tree) (path : Path) :
    Regular (tree.prepare path).2 ∧ MoreFolders tree (tree.prepare path).2 := by
  unfold prepare
  split
  · exact ⟨htree, .refl tree⟩
  · split
    · exact ⟨htree, .refl tree⟩
    · exact makeFolders_moreFolders htree _

theorem Alike.prepare (h : Alike a b) (path : Path) :
    (a.prepare path).1 = (b.prepare path).1 ∧ Alike (a.prepare path).2 (b.prepare path).2 := by
  unfold FileTree.prepare
  split
  · exact ⟨rfl, h⟩
  · rw [h.pathExists]
    split
    · exact ⟨rfl, h⟩
    · exact h.makeFolders _

/-- Nothing is made where a file can be. -/
theorem Leads.prepare {folder : Place} {last : Path} (h : Leads tree path folder last)
    (htree : Regular tree) : tree.prepare path = (.ok (), tree) := by
  unfold FileTree.prepare
  split
  · rfl
  · rename_i parent hparent
    by_cases hempty : parent = ""
    · simp [hempty]
    · obtain ⟨children, hfind⟩ := h.parent htree hparent hempty
      simp [pathExists, hfind, Except.isOk, Except.toBool]

theorem Leads.free {folder : Place} {last : Path} (h : Leads tree path folder last)
    (htree : Regular tree) (hfree : tree.root.contentAt (folder ++ [last]) ≠ some .folder) :
    Free tree.root folder last := ⟨h.ends.name, h.isFolder htree, hfree⟩

/-- What saving a file does to the places of a tree. -/
structure Writes (before : FileTree) (place : Place) (text : String) (after : FileTree) :
    Prop where
  regular : Regular after
  here : after.here = before.here
  sealed : after.sealed = before.sealed
  admits : Admits before place text
  written : after.root.contentAt place = some (.file text.toUTF8)
  old : before.root.contentAt place ≠ some .folder
  kept : ∀ other content, other ≠ place → before.root.contentAt other = some content →
    after.root.contentAt other = some content
  fresh : ∀ other, other ≠ place → before.root.contentAt other = none →
    after.root.contentAt other = none ∨ after.root.contentAt other = some .folder

theorem Free.writes {folder : Place} {last : Path} (h : Free tree.root folder last)
    (htree : Regular tree) (hadmits : Admits tree (folder ++ [last]) text) :
    Writes tree (folder ++ [last]) text
      { tree with root := tree.root.put (.file text.toUTF8) (folder ++ [last]) } := by
  have hcontent := fun other => h.contentAt (isLeaf_file text.toUTF8) other
  refine ⟨h.regular htree (isLeaf_file _), rfl, rfl, hadmits, ?_, h.free, ?_, ?_⟩
  · rw [hcontent, if_pos rfl]
    rfl
  · intro other content hother hold
    rw [hcontent, if_neg hother, hold]
  · intro other hother hold
    rw [hcontent, if_neg hother]
    exact Or.inl hold

theorem MoreFolders.file_iff (h : MoreFolders before after) {bytes : ByteArray} :
    after.root.contentAt place = some (.file bytes) ↔
      before.root.contentAt place = some (.file bytes) := by
  constructor
  · intro hfile
    cases hold : before.root.contentAt place with
    | some content => rw [← h.kept place content hold, hfile]
    | none =>
      rcases h.fresh place hold with hnone | hfolder
      · cases hnone.symm.trans hfile
      · cases hfolder.symm.trans hfile
  · exact h.kept place _

theorem MoreFolders.admits_iff (h : MoreFolders before after) :
    Admits after place text ↔ Admits before place text := by
  rw [Admits, Admits, h.sealed, h.file_iff]

theorem MoreFolders.writes {ready : FileTree} (h : MoreFolders before ready)
    (hwrites : Writes ready place text after) : Writes before place text after := by
  refine ⟨hwrites.regular, hwrites.here.trans h.here, hwrites.sealed.trans h.sealed,
    h.admits_iff.mp hwrites.admits, hwrites.written, ?_, ?_, ?_⟩
  · intro hfolder
    exact hwrites.old (h.kept _ _ hfolder)
  · intro other content hother hold
    exact hwrites.kept other content hother (h.kept other content hold)
  · intro other hother hold
    rcases h.fresh other hold with hnone | hfolder
    · exact hwrites.fresh other hother hnone
    · exact Or.inr (hwrites.kept other _ hother hfolder)

theorem Writes.grown (h : Writes before place text after) : Grown before after := by
  refine ⟨h.here, h.sealed, ?_, ?_⟩
  · intro other hfolder
    refine h.kept other _ ?_ hfolder
    rintro rfl
    exact h.old hfolder
  · rintro other ⟨bytes, hfile⟩
    by_cases hother : other = place
    · subst hother
      exact ⟨_, h.written⟩
    · exact ⟨bytes, h.kept other _ hother hfile⟩

theorem Writes.file_iff (h : Writes before place text after) {other : Place}
    (hother : other ≠ place) {bytes : ByteArray} :
    after.root.contentAt other = some (.file bytes) ↔
      before.root.contentAt other = some (.file bytes) := by
  constructor
  · intro hfile
    cases hold : before.root.contentAt other with
    | some content => rw [← h.kept other content hother hold, hfile]
    | none =>
      rcases h.fresh other hother hold with hnone | hfolder
      · cases hnone.symm.trans hfile
      · cases hfolder.symm.trans hfile
  · exact h.kept other _ hother

/-- What a place can hold does not change when another place is written, nor when its own is: a
sealed file is as it was. -/
theorem Writes.admits_iff (h : Writes before place text after) {other : Place} {text' : String} :
    Admits after other text' ↔ Admits before other text' := by
  rw [Admits, Admits, h.sealed]
  refine forall_congr' fun hsealed => ?_
  by_cases hother : other = place
  · subst hother
    rw [h.written, h.admits hsealed]
  · exact h.file_iff hother

/-- The path of a saved file leads to its place from then on. -/
theorem Saved.spec (h : Saved before path text place after) (hbefore : Regular before) :
    Writes before place text after ∧
      ∃ folder last, place = folder ++ [last] ∧ Leads after path folder last := by
  cases h with
  | @intro ready folder last hprepare hleads hfree hadmits =>
    have hready := prepare_moreFolders hbefore path
    rw [hprepare] at hready
    obtain ⟨hregular, hmore⟩ := hready
    have hwrites := (hleads.free hregular hfree).writes hregular hadmits
    exact ⟨hmore.writes hwrites, folder, last, rfl, hwrites.grown.leads hleads⟩

theorem Saved.writes (h : Saved before path text place after) (hbefore : Regular before) :
    Writes before place text after := (h.spec hbefore).1

/-- Saving under the same path goes the same way in a tree of the same shape. -/
theorem Saved.alike (h : Saved a path text place after) (hab : Alike a b) {text' : String}
    (hadmits : Admits b place text') :
    ∃ after', Saved b path text' place after' ∧ Alike after after' := by
  cases h with
  | @intro ready folder last hprepare hleads hfree _ =>
    obtain ⟨houtcome, hready⟩ := hab.prepare path
    rw [hprepare] at houtcome hready
    have hprepare' : b.prepare path = (.ok (), (b.prepare path).2) := Prod.ext houtcome.symm rfl
    refine ⟨_, .intro hprepare' (hready.grown.leads hleads) ?_ ?_, ?_⟩
    · exact fun hfolder => hfree (hready.back.folder _ hfolder)
    · exact (prepare_moreFolders hab.right path).2.admits_iff.mpr hadmits
    · exact hready.put (hleads.free hready.left hfree) (isLeaf_file _) (isLeaf_file _) rfl

/-- Where a file has been saved, another text can be saved, and no more than the text changes. -/
theorem Saved.again (h : Saved before path text place after) (hbefore : Regular before)
    (hgrown : Grown after tree) (htree : Regular tree) {text' : String}
    (hadmits : Admits tree place text') :
    ∃ tree', Saved tree path text' place tree' ∧ Alike tree tree' := by
  obtain ⟨hwrites, folder, last, rfl, hleads⟩ := h.spec hbefore
  have hleads' := hgrown.leads hleads
  obtain ⟨bytes, hfile⟩ := hgrown.file _ ⟨_, hwrites.written⟩
  have hfree : tree.root.contentAt (folder ++ [last]) ≠ some .folder := by
    rw [hfile]
    simp
  have hput := hleads'.free htree hfree
  have hnext := hput.writes htree hadmits
  refine ⟨_, .intro (hleads'.prepare htree) hleads' hfree hadmits, htree, hnext.regular,
    hnext.grown,
    rfl, rfl, ?_, ?_⟩
  · intro other
    rw [hput.contentAt (isLeaf_file _)]
    split
    · intro hfolder
      cases hfolder
    · exact id
  · intro other
    rw [hput.contentAt (isLeaf_file _)]
    split
    · rename_i hother
      intro _
      exact ⟨bytes, hother ▸ hfile⟩
    · exact id

/-- A file whose folder is there is written at the place that its path leads to. -/
theorem Saved.place_eq {folder : Place} {last : Path} (h : Saved before path text place after)
    (hbefore : Regular before) (hleads : Leads before path folder last) :
    place = folder ++ [last] := by
  cases h with
  | @intro ready folder' last' hprepare hfound _ _ =>
    rw [hleads.prepare hbefore] at hprepare
    cases hprepare
    obtain rfl : last = last' := Option.some.inj (hleads.ends.steps.symm.trans hfound.ends.steps)
    obtain rfl := hleads.unique hfound
    rfl

theorem Saved.place_unique {text' : String} {place' : Place} {after' : FileTree}
    (h : Saved before path text place after) (h' : Saved before path text' place' after') :
    place = place' := by
  cases h with
  | @intro ready folder last hprepare hleads _ _ =>
    cases h' with
    | @intro ready' folder' last' hprepare' hleads' _ _ =>
      cases hprepare.symm.trans hprepare'
      obtain rfl : last = last' :=
        Option.some.inj (hleads.ends.steps.symm.trans hleads'.ends.steps)
      obtain rfl := hleads.unique hleads'
      rfl

theorem Saved.unique {place' : Place} {after' : FileTree} (h : Saved before path text place after)
    (h' : Saved before path text place' after') : place = place' ∧ after = after' := by
  obtain rfl := h.place_unique h'
  refine ⟨rfl, ?_⟩
  cases h with
  | @intro ready folder last hprepare _ _ _ =>
    generalize hplace : folder ++ [last] = place at h'
    cases h' with
    | @intro ready' folder' last' hprepare' _ _ _ =>
      cases hprepare.symm.trans hprepare'
      rfl

variable {writes writes' : List (Path × String)} {places : List Place}

theorem savedAll_singleton : (∃ places, SavedAll before [(path, text)] places after) ↔
    ∃ place, Saved before path text place after := by
  constructor
  · rintro ⟨_, h⟩
    cases h with
    | cons hfirst hrest =>
      cases hrest
      exact ⟨_, hfirst⟩
  · rintro ⟨place, h⟩
    exact ⟨[place], .cons h .nil⟩

theorem SavedAll.regular (h : SavedAll before writes places after) (hbefore : Regular before) :
    Regular after := by
  induction h with
  | nil => exact hbefore
  | cons hfirst _ ih => exact ih (hfirst.writes hbefore).regular

theorem SavedAll.grown (h : SavedAll before writes places after) (hbefore : Regular before) :
    Grown before after := by
  induction h with
  | nil => exact .refl _
  | cons hfirst _ ih =>
    have hwrites := hfirst.writes hbefore
    exact hwrites.grown.trans (ih hwrites.regular)

def AdmitsAll (tree : FileTree) (places : List Place) (writes : List (Path × String)) : Prop :=
  List.Forall₂ (fun place write => Admits tree place write.2) places writes

theorem Writes.admitsAll_iff (h : Writes before place text after) :
    AdmitsAll after places writes ↔ AdmitsAll before places writes := by
  simp only [AdmitsAll, h.admits_iff]

theorem SavedAll.admitsAll_iff (h : SavedAll before writes places after) (hbefore : Regular before)
    {places' : List Place} :
    AdmitsAll after places' writes' ↔ AdmitsAll before places' writes' := by
  induction h with
  | nil => exact Iff.rfl
  | cons hfirst _ ih =>
    have hwrites := hfirst.writes hbefore
    rw [ih hwrites.regular, hwrites.admitsAll_iff]

theorem SavedAll.admitsAll (h : SavedAll before writes places after) (hbefore : Regular before) :
    AdmitsAll before places writes := by
  induction h with
  | nil => exact .nil
  | cons hfirst _ ih =>
    have hwrites := hfirst.writes hbefore
    exact .cons hwrites.admits (hwrites.admitsAll_iff.mp (ih hwrites.regular))

theorem SavedAll.unique {places' : List Place} {after' : FileTree}
    (h : SavedAll before writes places after) (h' : SavedAll before writes places' after') :
    places = places' ∧ after = after' := by
  induction h generalizing places' with
  | nil =>
    cases h'
    exact ⟨rfl, rfl⟩
  | cons hfirst _ ih =>
    cases h' with
    | cons hfirst' hrest' =>
      obtain ⟨rfl, rfl⟩ := hfirst.unique hfirst'
      obtain ⟨rfl, rfl⟩ := ih hrest'
      exact ⟨rfl, rfl⟩

theorem SavedAll.alike (h : SavedAll a writes places after) (hab : Alike a b)
    (hpaths : writes'.map Prod.fst = writes.map Prod.fst) (hadmits : AdmitsAll b places writes') :
    ∃ after', SavedAll b writes' places after' ∧ Alike after after' := by
  induction h generalizing b writes' with
  | nil =>
    rw [List.map_nil, List.map_eq_nil_iff] at hpaths
    subst hpaths
    exact ⟨b, .nil, hab⟩
  | @cons before between after path text place writes places hfirst _ ih =>
    obtain ⟨⟨path', text'⟩, rest, rfl, rfl, hrest⟩ := List.map_eq_cons_iff.mp hpaths
    obtain ⟨hfirstAdmits, hadmits⟩ := List.forall₂_cons.mp hadmits
    obtain ⟨between', hfirst', hbetween⟩ := hfirst.alike hab hfirstAdmits
    have hrestAdmits : AdmitsAll between' places rest :=
      (hfirst'.writes hab.right).admitsAll_iff.mpr hadmits
    obtain ⟨after', hrest', hafter⟩ := ih hbetween hrest hrestAdmits
    exact ⟨after', .cons hfirst' hrest', hafter⟩

theorem SavedAll.again (h : SavedAll before writes places after) (hbefore : Regular before)
    (hgrown : Grown after tree) (htree : Regular tree)
    (hpaths : writes'.map Prod.fst = writes.map Prod.fst)
    (hadmits : AdmitsAll tree places writes') :
    ∃ tree', SavedAll tree writes' places tree' ∧ Alike tree tree' := by
  induction h generalizing tree writes' with
  | nil =>
    rw [List.map_nil, List.map_eq_nil_iff] at hpaths
    subst hpaths
    exact ⟨tree, .nil, .refl htree⟩
  | @cons before between after path text place writes places hfirst hmore ih =>
    obtain ⟨⟨path', text'⟩, rest, rfl, rfl, hrest⟩ := List.map_eq_cons_iff.mp hpaths
    obtain ⟨hfirstAdmits, hadmits⟩ := List.forall₂_cons.mp hadmits
    have hbetween := (hfirst.writes hbefore).regular
    obtain ⟨next, hfirst', hnext⟩ :=
      hfirst.again hbefore ((hmore.grown hbetween).trans hgrown) htree hfirstAdmits
    have hrestAdmits : AdmitsAll next places rest :=
      (hfirst'.writes htree).admitsAll_iff.mpr hadmits
    obtain ⟨tree', hrest', htree'⟩ :=
      ih hbetween (hgrown.trans hnext.grown) hnext.right hrest hrestAdmits
    exact ⟨tree', .cons hfirst' hrest', hnext.trans htree'⟩

/-- Saving under the same paths later on writes the same places. -/
theorem SavedAll.places_eq (h : SavedAll before writes places after) (hbefore : Regular before)
    (hgrown : Grown after tree) (htree : Regular tree)
    (hpaths : writes'.map Prod.fst = writes.map Prod.fst) {places' : List Place} {last : FileTree}
    (h' : SavedAll tree writes' places' last) : places' = places := by
  induction h generalizing tree writes' places' with
  | nil =>
    rw [List.map_nil, List.map_eq_nil_iff] at hpaths
    subst hpaths
    cases h'
    rfl
  | @cons before between after path text place writes places hfirst hmore ih =>
    obtain ⟨⟨path', text'⟩, rest, rfl, rfl, hrest⟩ := List.map_eq_cons_iff.mp hpaths
    have hbetween := (hfirst.writes hbefore).regular
    obtain ⟨_, folder, last, rfl, hleads⟩ := hfirst.spec hbefore
    cases h' with
    | cons hfirst' hmore' =>
      have hwrites := hfirst'.writes htree
      rw [hfirst'.place_eq htree (((hmore.grown hbetween).trans hgrown).leads hleads),
        ih hbetween (hgrown.trans hwrites.grown) hwrites.regular hrest hmore']

def lastText : List Place → List (Path × String) → Place → Option String
  | place :: places, (_, text) :: writes, other =>
    (lastText places writes other).or (if other = place then some text else none)
  | _, _, _ => none

theorem lastText_of_not_mem {places : List Place} (h : place ∉ places)
    (writes : List (Path × String)) : lastText places writes place = none := by
  induction places generalizing writes with
  | nil => rfl
  | cons first places ih =>
    rw [List.mem_cons, not_or] at h
    cases writes with
    | nil => rfl
    | cons write writes => rw [lastText, ih h.2, if_neg h.1, Option.none_or]

theorem SavedAll.kept (h : SavedAll before writes places after) (hbefore : Regular before)
    {content : Content} (hplace : place ∉ places)
    (hold : before.root.contentAt place = some content) :
    after.root.contentAt place = some content := by
  induction h with
  | nil => exact hold
  | cons hfirst _ ih =>
    rw [List.mem_cons, not_or] at hplace
    have hwrites := hfirst.writes hbefore
    exact ih hwrites.regular hplace.2 (hwrites.kept place content hplace.1 hold)

theorem SavedAll.fresh (h : SavedAll before writes places after) (hbefore : Regular before)
    (hplace : place ∉ places) (hold : before.root.contentAt place = none) :
    after.root.contentAt place = none ∨ after.root.contentAt place = some .folder := by
  induction h with
  | nil => exact Or.inl hold
  | cons hfirst hrest ih =>
    rw [List.mem_cons, not_or] at hplace
    have hwrites := hfirst.writes hbefore
    rcases hwrites.fresh place hplace.1 hold with hnone | hfolder
    · exact ih hwrites.regular hplace.2 hnone
    · exact Or.inr (hrest.kept hwrites.regular hplace.2 hfolder)

/-- At each of the places the text that is written there last is found, and one is. -/
theorem SavedAll.written (h : SavedAll before writes places after) (hbefore : Regular before)
    (hplace : place ∈ places) : ∃ text, lastText places writes place = some text ∧
      after.root.contentAt place = some (.file text.toUTF8) := by
  induction h with
  | nil => cases hplace
  | @cons before between after path text first writes places hfirst hrest ih =>
    have hwrites := hfirst.writes hbefore
    by_cases hlater : place ∈ places
    · obtain ⟨text', hlast, hcontent⟩ := ih hwrites.regular hlater
      exact ⟨text', by rw [lastText, hlast, Option.some_or], hcontent⟩
    · obtain rfl := (List.mem_cons.mp hplace).resolve_right hlater
      refine ⟨text, ?_, hrest.kept hwrites.regular hlater hwrites.written⟩
      rw [lastText, lastText_of_not_mem hlater, Option.none_or, if_pos rfl]

/-- Saving texts over others, under the same paths, gives what saving only them gives. -/
theorem SavedAll.overwrite (h : SavedAll before writes places after) (hbefore : Regular before)
    (hpaths : writes'.map Prod.fst = writes.map Prod.fst)
    (hadmits : AdmitsAll before places writes') :
    ∃ last, SavedAll before writes' places last ∧ SavedAll after writes' places last := by
  have hafter := h.regular hbefore
  obtain ⟨direct, hdirect, halike⟩ := h.alike (.refl hbefore) hpaths hadmits
  obtain ⟨again, hagain, halike'⟩ :=
    h.again hbefore (.refl after) hafter hpaths ((h.admitsAll_iff hbefore).mpr hadmits)
  have hhere : direct.here = again.here := by
    rw [halike.grown.here, halike'.grown.here]
  have hsealed : direct.sealed = again.sealed := by
    rw [halike.grown.sealed, halike'.grown.sealed]
  have hroot : direct.root = again.root := by
    apply Node.Proper.ext halike.right.proper halike'.right.proper
    intro place
    by_cases hplace : place ∈ places
    · obtain ⟨text, hlast, hcontent⟩ := hdirect.written hbefore hplace
      obtain ⟨text', hlast', hcontent'⟩ := hagain.written hafter hplace
      rw [hlast] at hlast'
      cases hlast'
      rw [hcontent, hcontent']
    · cases hold : before.root.contentAt place with
      | some content =>
        rw [hdirect.kept hbefore hplace hold,
          hagain.kept hafter hplace (h.kept hbefore hplace hold)]
      | none =>
        rcases h.fresh hbefore hplace hold with hnone | hfolder
        · rw [halike.none_of_none hnone, halike'.none_of_none hnone]
        · rw [halike.grown.folder place hfolder, halike'.grown.folder place hfolder]
  have hsame : direct = again := by
    cases direct
    cases again
    cases hhere
    cases hsealed
    cases hroot
    rfl
  exact ⟨direct, hdirect, hsame ▸ hagain⟩

/-- A text that can be saved in place of another one can be saved over it, with the same outcome. -/
theorem Saved.overwrite (h : Saved before path text place after) (hbefore : Regular before)
    {text' : String} {place' : Place} {last : FileTree}
    (h' : Saved before path text' place' last) : Saved after path text' place' last := by
  obtain rfl := h.place_unique h'
  have hall : SavedAll before [(path, text)] [place] after := .cons h .nil
  have hall' : SavedAll before [(path, text')] [place] last := .cons h' .nil
  have hpaths : [(path, text')].map Prod.fst = [(path, text)].map Prod.fst := rfl
  obtain ⟨direct, hdirect, hagain⟩ := hall.overwrite hbefore hpaths (hall'.admitsAll hbefore)
  obtain ⟨-, rfl⟩ := hall'.unique hdirect
  cases hagain with
  | cons hfirst hnone =>
    cases hnone
    exact hfirst

end ReleaseStamp.FileTree
