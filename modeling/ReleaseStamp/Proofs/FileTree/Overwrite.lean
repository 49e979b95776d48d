import ReleaseStamp.Proofs.FileTree.Found

/-!
# Writing where the folder is there

A file whose folder is there is written without making a folder, so that nothing changes but what
is found at its place. Such a write fails only where a folder is in the place of the file, or where
the place is sealed.
-/
namespace ReleaseStamp.FileTree

open ReleaseStamp.Path (IsName)

variable {a b tree before between after : FileTree} {path name last : Path} {text : String}
  {base names other place folder : Place}

def lead (path : Path) : Path :=
  if path.isEmpty || Path.endsWithSlash path then path else path ++ "/"

theorem join_eq_lead (h : IsName name) (path : Path) : Path.join path name = lead path ++ name := by
  rw [Path.join, Path.not_isAbsolute_name h, if_neg Bool.false_ne_true, lead]
  split
  · rfl
  · rfl

theorem lead_join (h : IsName name) (path : Path) :
    lead (Path.join path name) = Path.join path name ++ "/" := by
  have hne : Path.join path name ≠ "" := by
    rw [join_eq_lead h, Ne, Path.append_eq_empty_iff]
    exact fun hempty => h.1 hempty.2
  rw [lead, Path.endsWithSlash_join h]
  simp [hne]

theorem below_eq_lead (h : IsRoute names) (path : Path) :
    below path names = lead path ++ below "" names := by
  obtain ⟨hne, hnames⟩ := h
  induction names generalizing path with
  | nil => exact absurd rfl hne
  | cons name names ih =>
    have hname := hnames name List.mem_cons_self
    have hlead : lead "" = "" := rfl
    have hfirst : Path.join "" name = name := by
      rw [join_eq_lead hname, hlead, Path.empty_append]
    cases names with
    | nil => rw [below, below, List.foldl_cons, List.foldl_cons, List.foldl_nil, List.foldl_nil,
        hfirst, join_eq_lead hname]
    | cons next names =>
      have hrest := fun path => ih path (List.cons_ne_nil next names)
        fun other hother => hnames other (List.mem_cons_of_mem name hother)
      have hsplit : ∀ path, below path (name :: next :: names) =
          lead path ++ name ++ "/" ++ below "" (next :: names) := by
        intro path
        rw [below, List.foldl_cons, ← below, hrest, lead_join hname, join_eq_lead hname]
      rw [hsplit, hsplit "", hlead, Path.empty_append]
      simp only [Path.append_assoc]

/-- A path that is no longer than another one below the same folder can be followed as well. -/
theorem Fits.route (h : Fits (below path names)) (hnames : IsRoute names) (hother : IsRoute other)
    (hnul : 0 ∉ (below "" other).bytes)
    (hle : (below "" other).bytes.length ≤ (below "" names).bytes.length) :
    Fits (below path other) := by
  obtain ⟨hnul', _, hshort⟩ := h
  rw [below_eq_lead hnames] at hnul' hshort
  rw [Path.bytes_append, List.length_append] at hshort
  rw [below_eq_lead hother]
  refine ⟨?_, ?_, ?_⟩
  · rw [Path.bytes_append, List.mem_append] at hnul' ⊢
    rintro (hlead | hbelow)
    · exact hnul' (Or.inl hlead)
    · exact hnul hbelow
  · rw [Ne, Path.append_eq_empty_iff]
    rintro ⟨_, hempty⟩
    have hsteps := steps_below hother.isName ""
    rw [hempty] at hsteps
    exact hother.ne_nil (List.append_eq_nil_iff.mp hsteps.symm).2
  · rw [Path.bytes_append, List.length_append]
    omega

/-- The folder of a place below `path` is there, and the path to the place can be followed. -/
def Ready (tree : FileTree) (path : Path) (base names : Place) : Prop :=
  ∃ init last, names = init ++ [last] ∧ Leads tree (below path names) (base ++ init) last

theorem ready_iff (htree : Regular tree) (hbase : Enters tree path base) (hroute : IsRoute names) :
    Ready tree path base names ↔ Fits (below path names) ∧
      (∀ name ∈ names, isTooLong name = false) ∧
      tree.root.contentAt (base ++ names.dropLast) = some .folder := by
  obtain ⟨init, last, rfl⟩ := hroute.split
  rw [List.dropLast_concat]
  constructor
  · rintro ⟨init', last', hsame, hleads⟩
    obtain ⟨rfl, hlast⟩ := List.append_inj' hsame rfl
    cases hlast
    obtain ⟨hfits, hshort, hfolder, _⟩ := (leads_below_iff htree hbase hroute.isName).mp hleads
    exact ⟨hfits, hshort, hfolder⟩
  · rintro ⟨hfits, hshort, hfolder⟩
    exact ⟨init, last, rfl,
      (leads_below_iff htree hbase hroute.isName).mpr ⟨hfits, hshort, hfolder, rfl⟩⟩

theorem Ready.grown (h : Ready before path base names) (hgrown : Grown before after) :
    Ready after path base names := by
  obtain ⟨init, last, hsplit, hleads⟩ := h
  exact ⟨init, last, hsplit, hgrown.leads hleads⟩

/-- A file that can be read can be written, unless its place is sealed. -/
theorem Holds.ready (h : Holds tree path names text) (htree : Regular tree)
    (hbase : Enters tree path base) (hroute : IsRoute names) : Ready tree path base names := by
  obtain ⟨hfits, hshort, hfile⟩ := (readText_below_iff htree hbase hroute).mp h
  refine (ready_iff htree hbase hroute).mpr ⟨hfits, hshort, ?_⟩
  obtain ⟨init, last, rfl⟩ := hroute.split
  rw [← List.append_assoc] at hfile
  rw [List.dropLast_concat]
  exact contentAt_of_append hfile (List.cons_ne_nil last [])

/-- A file whose folder is there is written at the place that its path leads to, and nothing else
changes. -/
theorem Saved.contentAt_of_leads (h : Saved before path text place after) (hbefore : Regular before)
    (hleads : Leads before path folder name) : place = folder ++ [name] ∧
      ∀ other, after.root.contentAt other =
        if other = place then some (.file text.toUTF8) else before.root.contentAt other := by
  refine ⟨h.place_eq hbefore hleads, ?_⟩
  cases h with
  | @intro ready folder' last hprepare hfound hfree _ =>
    rw [hleads.prepare hbefore] at hprepare
    cases hprepare
    exact (hfound.free hbefore hfree).contentAt (isLeaf_file _)

theorem Saved.contentAt (h : Saved before (below path names) text place after)
    (hbefore : Regular before) (hready : Ready before path base names) (other : Place) :
    after.root.contentAt other =
      if other = base ++ names then some (.file text.toUTF8) else before.root.contentAt other := by
  obtain ⟨init, last, rfl, hleads⟩ := hready
  obtain ⟨rfl, hcontent⟩ := h.contentAt_of_leads hbefore hleads
  rw [hcontent, List.append_assoc]

/-- Why no file can be written at a place in a folder. -/
inductive Unwritable (tree : FileTree) (place : Place) : Fault → Prop where
  | folder : tree.root.contentAt place = some .folder → Unwritable tree place .isFolder
  | sealed : tree.root.contentAt place ≠ some .folder → place ∈ tree.sealed →
      Unwritable tree place .denied

theorem Unwritable.of_eq {fault : Fault} (h : Unwritable after place fault)
    (hcontent : after.root.contentAt place = before.root.contentAt place)
    (hsealed : after.sealed = before.sealed) : Unwritable before place fault := by
  cases h with
  | folder hfolder => exact .folder (hcontent ▸ hfolder)
  | sealed hfree hmem => exact .sealed (hcontent ▸ hfree) (hsealed ▸ hmem)

theorem writeText_error (htree : Regular tree) (h : Leads tree path folder last) {fault : Fault} :
    tree.writeText path text = .error fault ↔ Unwritable tree (folder ++ [last]) fault := by
  have hresolve := h.resolve htree .write
  by_cases hfolder : tree.root.contentAt (folder ++ [last]) = some .folder
  · obtain ⟨children, hchildren⟩ := Node.contentAt_folder.mp hfolder
    simp only [writeText, writeBytes, hresolve, bind, Except.bind, Target.place, Option.toList,
      hchildren, Except.error.injEq]
    constructor
    · rintro rfl
      exact .folder hfolder
    · intro hfault
      cases hfault with
      | folder _ => rfl
      | sealed hfree _ => exact absurd hfolder hfree
  · have hno : ∀ children, tree.root.get? (folder ++ [last]) ≠ some (.folder children) :=
      fun children hchildren => hfolder (Node.contentAt_folder.mpr ⟨children, hchildren⟩)
    simp only [writeText, writeBytes, hresolve, bind, Except.bind, Target.place, Option.toList,
      List.contains_iff_mem]
    constructor
    · intro hwrite
      split at hwrite
      · rename_i hsealed
        cases hwrite
        exact .sealed hfolder hsealed
      · cases hwrite
    · intro hfault
      cases hfault with
      | folder hthere => exact absurd hthere hfolder
      | sealed _ hsealed => rw [if_pos hsealed]

variable {writes : List (Place × String)} {places : List Place}

/-- Below a folder files are written, and all else stays as it is: no place gets or loses a node. -/
structure Overwrites (before : FileTree) (base : Place) (writes : List (Place × String))
    (after : FileTree) : Prop where
  here : after.here = before.here
  sealed : after.sealed = before.sealed
  written : ∀ write ∈ writes,
    after.root.contentAt (base ++ write.1) = some (.file write.2.toUTF8)
  kept : ∀ place, (∀ write ∈ writes, place ≠ base ++ write.1) →
    after.root.contentAt place = before.root.contentAt place

theorem Overwrites.refl (tree : FileTree) (base : Place) : Overwrites tree base [] tree :=
  ⟨rfl, rfl, nofun, fun _ _ => rfl⟩

/-- The first write is one more change if no later one goes to its place. -/
theorem Overwrites.cons {write : Place × String} (h : Overwrites between base writes after)
    (hhere : between.here = before.here) (hsealed : between.sealed = before.sealed)
    (hfirst : ∀ place, between.root.contentAt place = if place = base ++ write.1
      then some (.file write.2.toUTF8) else before.root.contentAt place)
    (hnew : write.1 ∉ writes.map Prod.fst) : Overwrites before base (write :: writes) after := by
  refine ⟨h.here.trans hhere, h.sealed.trans hsealed, ?_, ?_⟩
  · rw [List.forall_mem_cons]
    refine ⟨?_, h.written⟩
    rw [h.kept, hfirst, if_pos rfl]
    intro later hlater hsame
    rw [List.append_cancel_left hsame] at hnew
    exact hnew (List.mem_map_of_mem hlater)
  · intro place hplace
    rw [List.forall_mem_cons] at hplace
    rw [h.kept place hplace.2, hfirst, if_neg hplace.1]

theorem SavedAll.overwrites (h : SavedAll before (under path writes) places after)
    (hbefore : Regular before) (hready : ∀ write ∈ writes, Ready before path base write.1)
    (honce : (writes.map Prod.fst).Nodup) : Overwrites before base writes after := by
  induction writes generalizing before places with
  | nil =>
    cases h
    exact .refl _ base
  | cons write writes ih =>
    rw [List.forall_mem_cons] at hready
    rw [List.map_cons, List.nodup_cons] at honce
    cases h with
    | cons hfirst hrest =>
      have hwrites := hfirst.writes hbefore
      have hlater := ih hrest hwrites.regular
        (fun other hother => (hready.2 other hother).grown hwrites.grown) honce.2
      exact hlater.cons hwrites.here hwrites.sealed (hfirst.contentAt hbefore hready.1) honce.1

/-- What changes are the places of the files that have held something else. -/
theorem Overwrites.changed_iff (h : Overwrites before base writes after) (place : Place) :
    after.root.contentAt place ≠ before.root.contentAt place ↔ ∃ write ∈ writes,
      place = base ++ write.1 ∧ before.root.contentAt place ≠ some (.file write.2.toUTF8) := by
  by_cases hplace : ∀ write ∈ writes, place ≠ base ++ write.1
  · rw [h.kept place hplace]
    constructor
    · intro hne
      exact absurd rfl hne
    · rintro ⟨write, hwrite, hsame, _⟩
      exact absurd hsame (hplace write hwrite)
  · push Not at hplace
    obtain ⟨write, hwrite, rfl⟩ := hplace
    rw [h.written write hwrite]
    constructor
    · intro hne
      exact ⟨write, hwrite, rfl, hne.symm⟩
    · rintro ⟨other, hother, hsame, hne⟩
      rw [← h.written write hwrite, hsame, h.written other hother, ← hsame]
      exact hne.symm

/-- A file that can be read is written over, and nothing else changes. -/
theorem Holds.over {text' : String} (h : Holds before path names text) (hbefore : Regular before)
    (hbase : Enters before path base) (hroute : IsRoute names)
    (hsaved : Saved before (below path names) text' place after) :
    Alike before after ∧ ∀ other, other ≠ base ++ names →
      after.root.contentAt other = before.root.contentAt other := by
  constructor
  · obtain ⟨_, hends⟩ := hroute.ends path
    obtain ⟨_, hread⟩ := saved_of_readText hbefore hends h
    obtain rfl := hread.place_unique hsaved
    obtain ⟨again, hagain, halike⟩ :=
      hread.again hbefore (.refl before) hbefore (hsaved.writes hbefore).admits
    obtain ⟨_, rfl⟩ := hsaved.unique hagain
    exact halike
  · intro other hother
    rw [hsaved.contentAt hbefore (h.ready hbefore hbase hroute), if_neg hother]

/-- What a path below a folder reads, or why it reads nothing, depends on its place only, in trees
with the same folders and files. -/
theorem Alike.readText_below (h : Alike a b) (hbase : Enters a path base) (hroute : IsRoute names)
    (hsame : b.root.contentAt (base ++ names) = a.root.contentAt (base ++ names)) :
    b.readText (below path names) = a.readText (below path names) := by
  obtain ⟨init, last, rfl⟩ := hroute.split
  rcases h.find_cases .look (below path (init ++ [last])) with
    ⟨fault, ha, hb⟩ | ⟨place, node, node', ha, hb, hkind⟩
  · simp only [FileTree.readText, readBytes, ha, hb]
  · obtain ⟨folder, hleads, rfl, hnode⟩ := leads_of_find h.left (ends_below hroute.isName path) ha
    obtain ⟨_, _, _, hnode'⟩ := resolve_of_find hb
    obtain ⟨_, _, _, rfl⟩ := (leads_below_iff h.left hbase hroute.isName).mp hleads
    rw [List.append_assoc] at hnode hnode'
    cases node with
    | file bytes =>
      rw [Node.contentAt_file.mpr hnode, Node.contentAt_file, hnode'] at hsame
      rw [Option.some.inj hsame] at hb
      simp only [FileTree.readText, readBytes, ha, hb]
    | link target => exact absurd hnode (h.left.linkless.get? _ target)
    | folder children =>
      cases node' with
      | file bytes => cases hkind
      | link target => cases hkind
      | folder children' => simp only [FileTree.readText, readBytes, ha, hb, bind, Except.bind]

end ReleaseStamp.FileTree
