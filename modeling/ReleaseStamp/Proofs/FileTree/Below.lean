import ReleaseStamp.Proofs.FileTree.Save
import ReleaseStamp.Proofs.FileTree.Walk

/-!
# Places below a folder

The paths of the places below a folder that a path leads to. What such a path reads is what is
found at the place, and what is saved under it is saved there.
-/
namespace ReleaseStamp.FileTree

open ReleaseStamp.Path (IsName)

variable {tree before after : FileTree} {path last : Path} {text : String} {base place : Place}

def Enters (tree : FileTree) (path : Path) (base : Place) : Prop :=
  enter tree.root (startOf tree.here path) (Path.steps path) = some base

theorem Grown.enters (h : Grown before after) (henters : Enters before path base) :
    Enters after path base := by
  rw [Enters, h.here]
  exact h.enter henters

theorem Enters.isFolder (h : Enters tree path base) (htree : Regular tree) :
    tree.root.contentAt base = some .folder := enter_folder (htree.start path) h

theorem below_concat (path : Path) (init : Place) (last : Path) :
    below path (init ++ [last]) = Path.join (below path init) last := by
  simp [below]

/-- Names that lead to a place below a folder. -/
structure IsRoute (names : Place) : Prop where
  ne_nil : names ≠ []
  isName : ∀ name ∈ names, IsName name

theorem IsRoute.split {names : Place} (h : IsRoute names) :
    ∃ init last, names = init ++ [last] :=
  ⟨_, _, (List.dropLast_concat_getLast h.ne_nil).symm⟩

theorem steps_below {names : Place} (h : ∀ name ∈ names, IsName name) (path : Path) :
    Path.steps (below path names) = Path.steps path ++ names := by
  induction names generalizing path with
  | nil => simp [below]
  | cons name names ih =>
    have hname := h name List.mem_cons_self
    have hnames := ih (fun other hother => h other (List.mem_cons_of_mem name hother))
      (Path.join path name)
    rw [below, List.foldl_cons, ← below, hnames, Path.steps_join hname]
    simp

theorem isAbsolute_below {names : Place} (h : ∀ name ∈ names, IsName name) (path : Path) :
    Path.isAbsolute (below path names) = Path.isAbsolute path := by
  induction names generalizing path with
  | nil => rfl
  | cons name names ih =>
    have hname := h name List.mem_cons_self
    rw [below, List.foldl_cons, ← below,
      ih (fun other hother => h other (List.mem_cons_of_mem name hother)),
      Path.isAbsolute_join hname]

theorem ends_below {init : Place} (h : ∀ name ∈ init ++ [last], IsName name) (path : Path) :
    Path.Ends (below path (init ++ [last])) last := by
  rw [below_concat]
  exact Path.ends_join (h last (List.mem_append_right _ List.mem_cons_self)) _

theorem IsRoute.ends {names : Place} (h : IsRoute names) (path : Path) :
    ∃ last, Path.Ends (below path names) last := by
  obtain ⟨init, last, rfl⟩ := h.split
  exact ⟨last, ends_below h.isName path⟩

/-- Two places have the same path only if they are the same. -/
theorem below_inj {first second : Place} (hfirst : ∀ name ∈ first, IsName name)
    (hsecond : ∀ name ∈ second, IsName name) (h : below path first = below path second) :
    first = second := by
  have hsteps := congrArg Path.steps h
  rw [steps_below hfirst, steps_below hsecond] at hsteps
  exact List.append_cancel_left hsteps

theorem contentAt_of_append {root : Node} {place rest : Place} {content : Content}
    (h : root.contentAt (place ++ rest) = some content) (hne : rest ≠ []) :
    root.contentAt place = some .folder := by
  obtain ⟨next, rest, rfl⟩ := List.exists_cons_of_ne_nil hne
  rw [Node.contentAt, Node.get?_append] at h
  cases hplace : root.get? place with
  | none => simp [hplace] at h
  | some node =>
    cases node with
    | file bytes =>
      rw [hplace] at h
      cases h
    | link target =>
      rw [hplace] at h
      cases h
    | folder children => exact Node.contentAt_folder.mpr ⟨children, hplace⟩

/-- Names are followed one below the other. -/
theorem enter_names {root : Node} {names : Place} (hnames : ∀ name ∈ names, IsName name)
    (hbase : root.contentAt base = some .folder) {folder : Place} :
    enter root base names = some folder ↔ (∀ name ∈ names, isTooLong name = false) ∧
      root.contentAt (base ++ names) = some .folder ∧ folder = base ++ names := by
  induction names generalizing base with
  | nil =>
    simp only [enter, Option.some.injEq, List.append_nil, hbase, true_and]
    constructor
    · rintro rfl
      exact ⟨fun name hname => absurd hname List.not_mem_nil, rfl⟩
    · rintro ⟨_, rfl⟩
      rfl
  | cons name names ih =>
    have hname := hnames name List.mem_cons_self
    have hrest := fun other hother => hnames other (List.mem_cons_of_mem name hother)
    have hplace : base ++ name :: names = base ++ [name] ++ names := by simp
    rw [enter, if_neg hname.2.2.1, if_neg hname.2.2.2, hplace]
    constructor
    · intro henter
      split at henter
      · rename_i hfolder
        obtain ⟨hshort, hcontent, hlast⟩ := (ih hrest hfolder.2).mp henter
        exact ⟨List.forall_mem_cons.mpr ⟨hfolder.1, hshort⟩, hcontent, hlast⟩
      · cases henter
    · rintro ⟨hshort, hcontent, hlast⟩
      rw [List.forall_mem_cons] at hshort
      have hfolder : root.contentAt (base ++ [name]) = some .folder := by
        cases names with
        | nil => simpa using hcontent
        | cons next names => exact contentAt_of_append hcontent (List.cons_ne_nil next names)
      rw [if_pos ⟨hshort.1, hfolder⟩]
      exact (ih hrest hfolder).mpr ⟨hshort.2, hcontent, hlast⟩

theorem leads_below_iff (htree : Regular tree) (hbase : Enters tree path base) {init : Place}
    (hnames : ∀ name ∈ init ++ [last], IsName name) {folder : Place} :
    Leads tree (below path (init ++ [last])) folder last ↔
      Fits (below path (init ++ [last])) ∧ (∀ name ∈ init ++ [last], isTooLong name = false) ∧
      tree.root.contentAt (base ++ init) = some .folder ∧ folder = base ++ init := by
  have hinit : ∀ name ∈ init, IsName name := fun name hname =>
    hnames name (List.mem_append_left _ hname)
  have hsteps : (Path.steps (below path (init ++ [last]))).dropLast = Path.steps path ++ init := by
    rw [steps_below hnames, ← List.append_assoc, List.dropLast_concat]
  have hstart : startOf tree.here (below path (init ++ [last])) = startOf tree.here path := by
    rw [startOf, isAbsolute_below hnames, ← startOf]
  have henter : enter tree.root (startOf tree.here path) (Path.steps path ++ init) =
      enter tree.root base init := by
    rw [enter_append, hbase, Option.bind_some]
  have hfolder := hbase.isFolder htree
  constructor
  · intro h
    have hplace := h.enter
    rw [hstart, hsteps, henter, enter_names hinit hfolder] at hplace
    refine ⟨h.fits, ?_, hplace.2⟩
    intro name hname
    rcases List.mem_append.mp hname with hname | hname
    · exact hplace.1 name hname
    · rw [List.mem_singleton.mp hname]
      exact h.short
  · rintro ⟨hfits, hshort, hplace⟩
    refine ⟨hfits, ends_below hnames path,
      hshort last (List.mem_append_right _ List.mem_cons_self), ?_⟩
    rw [hstart, hsteps, henter, enter_names hinit hfolder]
    exact ⟨fun name hname => hshort name (List.mem_append_left _ hname), hplace⟩

theorem find_below {purpose : Purpose} {names : Place} {node : Node} (htree : Regular tree)
    (hbase : Enters tree path base) (hroute : IsRoute names)
    (h : tree.find purpose (below path names) = .ok (place, node)) : place = base ++ names := by
  obtain ⟨init, last, rfl⟩ := hroute.split
  obtain ⟨folder, hleads, rfl, _⟩ := leads_of_find htree (ends_below hroute.isName path) h
  obtain ⟨_, _, _, rfl⟩ := (leads_below_iff htree hbase hroute.isName).mp hleads
  rw [List.append_assoc]

/-- What a path below a folder reads is the text of the file that is found there. -/
theorem readText_below_iff (htree : Regular tree) (hbase : Enters tree path base) {names : Place}
    (hroute : IsRoute names) : tree.readText (below path names) = .ok text ↔
      Fits (below path names) ∧ (∀ name ∈ names, isTooLong name = false) ∧
      tree.root.contentAt (base ++ names) = some (.file text.toUTF8) := by
  obtain ⟨init, last, rfl⟩ := hroute.split
  have hnames := hroute.isName
  rw [readText_iff htree (ends_below hnames path)]
  constructor
  · rintro ⟨folder, hleads, hfile⟩
    obtain ⟨hfits, hshort, _, rfl⟩ := (leads_below_iff htree hbase hnames).mp hleads
    rw [List.append_assoc] at hfile
    exact ⟨hfits, hshort, hfile⟩
  · rintro ⟨hfits, hshort, hfile⟩
    rw [← List.append_assoc] at hfile
    have habove := contentAt_of_append hfile (List.cons_ne_nil last [])
    exact ⟨base ++ init, (leads_below_iff htree hbase hnames).mpr ⟨hfits, hshort, habove, rfl⟩,
      hfile⟩

theorem Saved.place_below {names : Place} (h : Saved before (below path names) text place after)
    (hbefore : Regular before) (hbase : Enters before path base) (hroute : IsRoute names) :
    place = base ++ names := by
  obtain ⟨init, last, rfl⟩ := hroute.split
  have hnames := hroute.isName
  obtain ⟨hwrites, folder, found, rfl, hleads⟩ := h.spec hbefore
  have hfound : found = last := by
    have hsteps := hleads.ends.steps
    rw [(ends_below hnames path).steps] at hsteps
    exact (Option.some.inj hsteps).symm
  subst hfound
  have hafter := hwrites.grown.enters hbase
  obtain ⟨_, _, _, rfl⟩ := (leads_below_iff hwrites.regular hafter hnames).mp hleads
  rw [List.append_assoc]

def Holds (tree : FileTree) (path : Path) (names : Place) (text : String) : Prop :=
  tree.readText (below path names) = .ok text

def under (path : Path) (writes : List (Place × String)) : List (Path × String) :=
  writes.map fun write => (below path write.1, write.2)

theorem Holds.unique {names : Place} {text' : String} (h : Holds tree path names text)
    (h' : Holds tree path names text') : text = text' :=
  Except.ok.inj (h.symm.trans h')

/-- Where a file below a path holds a text, the path leads to a folder. -/
theorem Holds.enters {names : Place} (h : Holds tree path names text) (htree : Regular tree)
    (hroute : IsRoute names) : ∃ base, Enters tree path base := by
  obtain ⟨init, last, rfl⟩ := hroute.split
  have hnames := hroute.isName
  obtain ⟨folder, hleads, _⟩ := (readText_iff htree (ends_below hnames path)).mp h
  have henter := hleads.enter
  rw [startOf, isAbsolute_below hnames, ← startOf, steps_below hnames, ← List.append_assoc,
    List.dropLast_concat, enter_append, Option.bind_eq_some_iff] at henter
  obtain ⟨base, hbase, _⟩ := henter
  exact ⟨base, hbase⟩

variable {writes : List (Place × String)} {places : List Place}

theorem SavedAll.places_under (h : SavedAll before (under path writes) places after)
    (hbefore : Regular before) (hbase : Enters before path base)
    (hroutes : ∀ write ∈ writes, IsRoute write.1) : places = writes.map (base ++ ·.1) := by
  induction writes generalizing before places with
  | nil =>
    cases h
    rfl
  | cons write writes ih =>
    cases h with
    | cons hfirst hrest =>
      have hwrites := hfirst.writes hbefore
      rw [List.map_cons, ih hrest hwrites.regular (hwrites.grown.enters hbase)
        fun other hother => hroutes other (List.mem_cons_of_mem write hother),
        hfirst.place_below hbefore hbase (hroutes write List.mem_cons_self)]

theorem SavedAll.file_iff {saves : List (Path × String)}
    (h : SavedAll before saves places after)
    (hbefore : Regular before) (hplace : place ∉ places) {bytes : ByteArray} :
    after.root.contentAt place = some (.file bytes) ↔
      before.root.contentAt place = some (.file bytes) := by
  constructor
  · intro hfile
    cases hold : before.root.contentAt place with
    | some content => rw [← h.kept hbefore hplace hold, hfile]
    | none =>
      rcases h.fresh hbefore hplace hold with hnone | hfolder
      · rw [hnone] at hfile
        cases hfile
      · rw [hfolder] at hfile
        cases hfile
  · exact h.kept hbefore hplace

/-- Other files hold what they have held. -/
theorem SavedAll.holds_other (h : SavedAll before (under path writes) places after)
    (hbefore : Regular before) (hbase : Enters before path base)
    (hroutes : ∀ write ∈ writes, IsRoute write.1) {names : Place} (hroute : IsRoute names)
    (hother : names ∉ writes.map Prod.fst) :
    Holds after path names text ↔ Holds before path names text := by
  have hplace : base ++ names ∉ places := by
    rw [h.places_under hbefore hbase hroutes]
    intro hmem
    obtain ⟨write, hwrite, heq⟩ := List.mem_map.mp hmem
    exact hother (List.mem_map.mpr ⟨write, hwrite, List.append_cancel_left heq⟩)
  rw [Holds, Holds, readText_below_iff (h.regular hbefore) ((h.grown hbefore).enters hbase) hroute,
    readText_below_iff hbefore hbase hroute, h.file_iff hbefore hplace]

theorem Saved.holds_other {names other : Place} {text' : String}
    (h : Saved before (below path names) text place after) (hbefore : Regular before)
    (hbase : Enters before path base) (hnames : IsRoute names) (hother : IsRoute other)
    (hne : other ≠ names) : Holds after path other text' ↔ Holds before path other text' := by
  have hone : SavedAll before (under path [(names, text)]) [place] after := .cons h .nil
  refine hone.holds_other hbefore hbase ?_ hother ?_
  · intro write hwrite
    rw [List.mem_singleton.mp hwrite]
    exact hnames
  · intro hmem
    exact hne (List.mem_singleton.mp hmem)

theorem Saved.readText (h : Saved before path text place after) (hbefore : Regular before) :
    after.readText path = .ok text := by
  obtain ⟨hwrites, folder, last, rfl, hleads⟩ := h.spec hbefore
  exact (readText_iff hwrites.regular hleads.ends).mpr ⟨folder, hleads, hwrites.written⟩

/-- Files that are written once each hold what has been written. -/
theorem SavedAll.holds_written (h : SavedAll before (under path writes) places after)
    (hbefore : Regular before) (hbase : Enters before path base)
    (hroutes : ∀ write ∈ writes, IsRoute write.1) (honce : (writes.map Prod.fst).Nodup)
    {write : Place × String} (hwrite : write ∈ writes) :
    Holds after path write.1 write.2 := by
  induction writes generalizing before places with
  | nil => cases hwrite
  | cons first writes ih =>
    cases h with
    | cons hfirst hrest =>
      have hwrites := hfirst.writes hbefore
      have hbase' := hwrites.grown.enters hbase
      have hroutes' := fun other hother => hroutes other (List.mem_cons_of_mem first hother)
      rw [List.map_cons, List.nodup_cons] at honce
      rcases List.mem_cons.mp hwrite with rfl | hwrite
      · rw [SavedAll.holds_other hrest hwrites.regular hbase' hroutes'
          (hroutes write List.mem_cons_self) honce.1]
        exact hfirst.readText hbefore
      · exact ih hrest hwrites.regular hbase' hroutes' honce.2 hwrite

/-- Saving the text that a file holds changes nothing. -/
theorem saved_of_readText (htree : Regular tree) (hends : Path.Ends path last)
    (h : tree.readText path = .ok text) : ∃ place, Saved tree path text place tree := by
  obtain ⟨folder, hleads, hfile⟩ := (readText_iff htree hends).mp h
  have hfree : tree.root.contentAt (folder ++ [last]) ≠ some .folder := by
    rw [hfile]
    simp
  have hput := hleads.free htree hfree
  have hroot : tree.root.put (.file text.toUTF8) (folder ++ [last]) = tree.root := by
    apply Node.Proper.ext (hput.regular htree (isLeaf_file _)).proper htree.proper
    intro other
    rw [hput.contentAt (isLeaf_file _)]
    split
    · rename_i hother
      rw [hother, hfile]
      rfl
    · rfl
  have hsaved : Saved tree path text _ _ :=
    .intro (hleads.prepare htree) hleads hfree fun _ => hfile
  rw [hroot] at hsaved
  exact ⟨_, hsaved⟩

/-- Only the text that a sealed file holds can be saved to it. -/
theorem Saved.not_sealed {old : String} (h : Saved tree path text place after)
    (htree : Regular tree) (hends : Path.Ends path last) (hread : tree.readText path = .ok old)
    (hne : text ≠ old) : place ∉ tree.sealed := by
  intro hsealed
  obtain ⟨folder, hleads, hfile⟩ := (readText_iff htree hends).mp hread
  have hheld := (h.writes htree).admits hsealed
  rw [h.place_eq htree hleads, hfile, Option.some.injEq, Content.file_toUTF8_inj] at hheld
  exact hne hheld.symm

theorem savedAll_append {first second : List (Path × String)} :
    SavedAll before (first ++ second) places after ↔ ∃ between places' places'',
      SavedAll before first places' between ∧ SavedAll between second places'' after ∧
      places = places' ++ places'' := by
  induction first generalizing before places with
  | nil =>
    constructor
    · intro h
      exact ⟨before, [], places, .nil, h, rfl⟩
    · rintro ⟨between, places', places'', hfirst, hsecond, rfl⟩
      cases hfirst
      exact hsecond
  | cons write first ih =>
    constructor
    · intro h
      cases h with
      | cons hwrite hrest =>
        obtain ⟨between, places', places'', hfirst, hsecond, rfl⟩ := ih.mp hrest
        exact ⟨between, _, places'', .cons hwrite hfirst, hsecond, rfl⟩
    · rintro ⟨between, places', places'', hfirst, hsecond, rfl⟩
      cases hfirst with
      | cons hwrite hrest =>
        exact .cons hwrite (ih.mpr ⟨between, _, places'', hrest, hsecond, rfl⟩)

theorem SavedAll.length_eq {writes : List (Path × String)}
    (h : SavedAll before writes places after) : places.length = writes.length := by
  induction h with
  | nil => rfl
  | cons _ _ ih => rw [List.length_cons, List.length_cons, ih]

/-- Texts are saved; all but the first ones go to places that can be written. -/
def SavedFrom (before : FileTree) (count : Nat) (writes : List (Path × String)) (after : FileTree) :
    Prop :=
  ∃ places, SavedAll before writes places after ∧
    ∀ place ∈ places.drop count, place ∉ before.sealed

theorem savedFrom_length {writes : List (Path × String)} :
    SavedFrom before writes.length writes after ↔
      ∃ places, SavedAll before writes places after := by
  constructor
  · rintro ⟨places, hsaved, _⟩
    exact ⟨places, hsaved⟩
  · rintro ⟨places, hsaved⟩
    refine ⟨places, hsaved, ?_⟩
    rw [← hsaved.length_eq, List.drop_length]
    exact List.forall_mem_nil _

theorem savedFrom_append {first second : List (Path × String)} (hbefore : Regular before)
    {count : Nat} (hcount : count ≤ first.length) :
    SavedFrom before count (first ++ second) after ↔ ∃ between,
      SavedFrom before count first between ∧ SavedFrom between 0 second after := by
  constructor
  · rintro ⟨_, hsaved, hopen⟩
    obtain ⟨between, places', places'', hfirst, hsecond, rfl⟩ := savedAll_append.mp hsaved
    rw [← hfirst.length_eq] at hcount
    rw [List.drop_append_of_le_length hcount, List.forall_mem_append] at hopen
    rw [← (hfirst.grown hbefore).sealed] at hopen
    refine ⟨between, ⟨places', hfirst, ?_⟩, places'', hsecond, hopen.2⟩
    rw [← (hfirst.grown hbefore).sealed]
    exact hopen.1
  · rintro ⟨between, ⟨places', hfirst, hopen⟩, places'', hsecond, hopen'⟩
    refine ⟨_, savedAll_append.mpr ⟨between, places', places'', hfirst, hsecond, rfl⟩, ?_⟩
    rw [← hfirst.length_eq] at hcount
    rw [List.drop_append_of_le_length hcount, List.forall_mem_append]
    rw [List.drop_zero, (hfirst.grown hbefore).sealed] at hopen'
    exact ⟨hopen, hopen'⟩

theorem savedFrom_singleton : SavedFrom before 0 [(path, text)] after ↔
    ∃ place, Saved before path text place after ∧ place ∉ before.sealed := by
  constructor
  · rintro ⟨_, hsaved, hopen⟩
    cases hsaved with
    | cons hfirst hrest =>
      cases hrest
      exact ⟨_, hfirst, hopen _ List.mem_cons_self⟩
  · rintro ⟨place, hsaved, hopen⟩
    exact ⟨[place], .cons hsaved .nil, List.forall_mem_singleton.mpr hopen⟩

theorem savedAll_under_append {first second : List (Place × String)} :
    (∃ places, SavedAll before (under path (first ++ second)) places after) ↔ ∃ between,
      (∃ places, SavedAll before (under path first) places between) ∧
      ∃ places, SavedAll between (under path second) places after := by
  rw [under, List.map_append, ← under, ← under]
  constructor
  · rintro ⟨places, h⟩
    obtain ⟨between, places', places'', hfirst, hsecond, _⟩ := savedAll_append.mp h
    exact ⟨between, ⟨places', hfirst⟩, places'', hsecond⟩
  · rintro ⟨between, ⟨places', hfirst⟩, places'', hsecond⟩
    exact ⟨_, savedAll_append.mpr ⟨between, places', places'', hfirst, hsecond, rfl⟩⟩

theorem savedFrom_under_append {first second : List (Place × String)} (hbefore : Regular before)
    {count : Nat} (hcount : count ≤ first.length) :
    SavedFrom before count (under path (first ++ second)) after ↔ ∃ between,
      SavedFrom before count (under path first) between ∧
      SavedFrom between 0 (under path second) after := by
  rw [under, List.map_append, ← under, ← under]
  exact savedFrom_append hbefore (by rwa [under, List.length_map])

end ReleaseStamp.FileTree
