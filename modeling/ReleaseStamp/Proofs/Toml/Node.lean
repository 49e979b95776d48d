import ReleaseStamp.Proofs.Toml.Section
import ReleaseStamp.Toml.Node

/-!
# The tree of a plain document

A document of entries without a header and of the elements of one array of tables makes a root table
with the entries and the array.
-/
namespace ReleaseStamp.Toml.Node

variable {sections : Array Section} {unread : Unread}
  {count depth parent start stop first index : Nat} {key : String}

/-- Of the sections before `stop`, those from `first` on are unread. -/
def UnreadFrom (unread : Unread) (first stop : Nat) : Prop :=
  ∀ index, unread[index]?.getD false = decide (first ≤ index ∧ index < stop)

theorem unreadFrom_replicate (stop : Nat) : UnreadFrom (Array.replicate stop true) 0 stop := by
  intro index
  rw [Array.getElem?_replicate]
  by_cases h : index < stop <;> simp [h]

theorem UnreadFrom.take (h : UnreadFrom unread first stop) :
    UnreadFrom (unread.setIfInBounds first false) (first + 1) stop := by
  intro index
  rw [Array.getElem?_setIfInBounds]
  by_cases hsame : first = index
  · have hread : ¬ (first + 1 ≤ index ∧ index < stop) := by omega
    rw [if_pos hsame, decide_eq_false hread]
    split <;> rfl
  · rw [if_neg hsame, h index, decide_eq_decide]
    omega

theorem UnreadFrom.next_eq_none (h : UnreadFrom unread first stop) (path : List String)
    (start : Nat) {bound : Nat} (hbound : bound ≤ first ∨ stop ≤ first) :
    nextUnread? sections unread path start bound = none := by
  rw [nextUnread?, List.find?_eq_none]
  intro index hindex
  rw [List.mem_range'_1] at hindex
  have hread : ¬ (first ≤ index ∧ index < stop) := by omega
  rw [h index, decide_eq_false hread]
  exact Bool.false_ne_true

theorem UnreadFrom.next_eq_some (h : UnreadFrom unread first stop) (hstart : start ≤ first)
    (hfirst : first < stop) : nextUnread? sections unread [] start stop = some first := by
  rw [nextUnread?]
  rw [List.find?_range'_eq_some]
  refine ⟨?_, ?_, ?_⟩
  · simp [h first, hfirst]
  · rw [List.mem_range'_1]
    omega
  · intro index _ hindex
    have hread : ¬ (first ≤ index ∧ index < stop) := by omega
    simp [h index, hread]

theorem run_bind {α β : Type} (job : StateM Unread α) (next : α → StateM Unread β)
    (unread : Unread) :
    (job >>= next).run unread = (next (job.run unread).1).run (job.run unread).2 := rfl

theorem run_get (unread : Unread) : (get : StateM Unread Unread).run unread = (unread, unread) :=
  rfl

theorem run_pure {α : Type} (value : α) (unread : Unread) :
    (pure value : StateM Unread α).run unread = (value, unread) := rfl

def valueEntries (entries : List (String × Value)) : List (String × Node) :=
  entries.map fun entry => (entry.1, .value entry.2)

def ofTable (found : Section) : Node := .table (valueEntries found.entries) none

theorem takeEntries_run (h : UnreadFrom unread first stop) (hfirst : first < stop) :
    (takeEntries sections first).run unread =
      (valueEntries (sectionAt sections first).entries, unread.setIfInBounds first false) := by
  have hunread : unread[first]?.getD false = true := by
    rw [h first]
    simp [hfirst]
  simp [takeEntries, hunread, valueEntries]
  rfl

theorem contents_none
    (h : nextUnread? sections unread ((sectionAt sections parent).header.take depth) start stop =
      none) :
    (contents sections count depth parent start stop).run unread = (([], none), unread) := by
  cases count with
  | zero =>
    rw [contents]
    rfl
  | succ count =>
    rw [contents]
    by_cases hdone : parent = stop || start = stop
    · rw [if_pos hdone]
      rfl
    · rw [if_neg hdone]
      simp [h]
      rfl

def AreTables (sections : Array Section) (key : String) (first stop : Nat) : Prop :=
  ∀ index, first ≤ index → index < stop →
    (sectionAt sections index).header = [key] ∧ (sectionAt sections index).isElement = true

theorem nextElement_eq (htables : AreTables sections key first stop) (hfirst : first ≤ index)
    (hindex : index < stop) : nextElement sections index stop = index + 1 := by
  obtain ⟨count, hcount⟩ := Nat.exists_eq_add_of_le (Nat.succ_le_of_lt hindex)
  unfold nextElement
  cases count with
  | zero =>
    obtain rfl : stop = index + 1 := hcount
    simp
  | succ count =>
    obtain ⟨hheader, _⟩ := htables index hfirst hindex
    obtain ⟨hother, helement⟩ := htables (index + 1) (by omega) (by omega)
    have hlength : stop - (index + 1) = count + 1 := by omega
    simp [hlength, List.range'_succ, hheader, hother, helement]

/-- Each element becomes a table of its own entries, and no section is left. -/
theorem elements_run (htables : AreTables sections key first sections.size)
    (hfirst : first ≤ index) (hindex : index ≤ sections.size)
    (hcount : sections.size ≤ index + count)
    (hunread : UnreadFrom unread index sections.size) :
    ∃ after, UnreadFrom after sections.size sections.size ∧
      (elements sections count 0 index sections.size).run unread =
        ((sections.toList.drop index).map ofTable, after) := by
  have hnil : sections.toList.drop sections.size = [] := List.drop_length
  induction count generalizing index unread with
  | zero =>
    obtain rfl : index = sections.size := by omega
    rw [elements, hnil]
    exact ⟨unread, hunread, rfl⟩
  | succ count ih =>
    rw [elements]
    by_cases hlast : index = sections.size
    · subst hlast
      rw [hnil, if_pos rfl]
      exact ⟨unread, hunread, rfl⟩
    · have hlt : index < sections.size := Nat.lt_of_le_of_ne hindex hlast
      obtain ⟨after, hafter, hrest⟩ := ih (Nat.le_succ_of_le hfirst) hlt (by omega) hunread.take
      refine ⟨after, hafter, ?_⟩
      rw [if_neg hlast]
      -- The next element follows at once, so the table has its own entries only.
      have hnext : nextUnread? sections (unread.setIfInBounds index false)
          ((sectionAt sections index).header.take 1) 0 (index + 1) = none :=
        hunread.take.next_eq_none _ 0 (Or.inl (Nat.le_refl _))
      have hfound : sections.toList.drop index =
          sectionAt sections index :: sections.toList.drop (index + 1) := by
        rw [List.drop_eq_getElem_cons (by simpa using hlt)]
        simp [sectionAt, hlt]
      simp only [nextElement_eq htables hfirst hlt, run_bind, takeEntries_run hunread hlt,
        contents_none hnext, hrest, hfound]
      simp [ofTable]
      rfl

def tableEntries (key : String) (tables : List Section) : List (String × Node) :=
  if tables.isEmpty then [] else [(key, .tables (tables.map ofTable))]

/-- From the root table, or from the section without a header, the elements are read as an array. -/
theorem contents_tables (htables : AreTables sections key first sections.size)
    (hparent : parent = first ∨ parent < first ∧ (sectionAt sections parent).header = [])
    (hstart : start ≤ first) (hfirst : first ≤ sections.size)
    (hcount : sections.size ≤ first + count) (hunread : UnreadFrom unread first sections.size) :
    ∃ after, (contents sections (count + 1) 0 parent start sections.size).run unread =
      ((tableEntries key (sections.toList.drop first), none), after) := by
  by_cases hlast : first = sections.size
  · have hnone : nextUnread? sections unread ((sectionAt sections parent).header.take 0) start
        sections.size = none := hunread.next_eq_none _ start (Or.inr (Nat.le_of_eq hlast.symm))
    refine ⟨unread, ?_⟩
    have hnil : sections.toList.drop sections.size = [] := List.drop_length
    rw [contents_none hnone, hlast, hnil]
    rfl
  · have hlt : first < sections.size := Nat.lt_of_le_of_ne hfirst hlast
    obtain ⟨after, hafter, hrest⟩ := elements_run htables (Nat.le_refl first) hfirst hcount hunread
    obtain ⟨hheader, helement⟩ := htables first (Nat.le_refl first) hlt
    refine ⟨after, ?_⟩
    rw [contents, if_neg (by simp; omega)]
    have hnext : nextUnread? sections unread [] start sections.size = some first :=
      hunread.next_eq_some hstart hlt
    -- The elements are read together, so that nothing is left for the root table.
    have hdone : (contents sections count 0 parent (first + 1) sections.size).run after =
        (([], none), after) :=
      contents_none (hafter.next_eq_none _ (first + 1) (Or.inr (Nat.le_refl _)))
    have hentries : tableEntries key (sections.toList.drop first) =
        [(key, .tables ((sections.toList.drop first).map ofTable))] := by
      rw [tableEntries, if_neg]
      simpa using hlt
    rw [hentries]
    have hrepeated : (parent ≠ first && (sectionAt sections parent).header ==
        (sectionAt sections first).header) = false := by
      rcases hparent with rfl | ⟨_, hroot⟩
      · simp
      · simp [hroot, hheader]
    have habove : (parent ≠ first && (sectionAt sections first).header.length <
        (sectionAt sections parent).header.length) = false := by
      rcases hparent with rfl | ⟨_, hroot⟩
      · simp
      · simp [hroot, hheader]
    have hkey : (sectionAt sections first).header[0]? = some key := by rw [hheader]; rfl
    have hname : ((sectionAt sections first).isElement &&
        0 + 1 == (sectionAt sections first).header.length) = true := by
      rw [helement, hheader]
      rfl
    simp only [run_bind, run_get, List.take_zero, hnext, hrepeated, habove, hkey, hname, hrest,
      hdone, run_pure, if_pos, if_neg Bool.false_ne_true]

theorem length_le_stepBound (sections : List Section) :
    sections.length + 2 ≤ stepBound sections := by
  have hdepth := Nat.mul_le_mul (Nat.le_refl (2 * (sections.length + 1)))
    (Nat.le_add_left 2 (greatestDepth sections))
  rw [stepBound]
  omega

theorem sectionAt_toArray (front given : List Section) {index : Nat}
    (hfirst : front.length ≤ index) (hindex : index < (front ++ given).toArray.size) :
    sectionAt (front ++ given).toArray index ∈ given := by
  obtain ⟨offset, rfl⟩ := Nat.exists_eq_add_of_le hfirst
  rw [List.size_toArray, List.length_append, Nat.add_lt_add_iff_left] at hindex
  simp [sectionAt, hindex]

theorem areTables_toArray (front : List Section) {given : List Section}
    (hgiven : ∀ found ∈ given, found.header = [key] ∧ found.isElement = true) :
    AreTables (front ++ given).toArray key front.length (front ++ given).toArray.size :=
  fun _ hfirst hindex => hgiven _ (sectionAt_toArray front given hfirst hindex)

/-- The section without a header is taken first. -/
theorem contents_root (hroot : (sectionAt sections 0).header = [])
    (helement : (sectionAt sections 0).isElement = false) (hstop : 0 < stop)
    (hunread : UnreadFrom unread 0 stop) {others : List (String × Node)} {after : Unread}
    (hrest : (contents sections count 0 0 0 stop).run (unread.setIfInBounds 0 false) =
      ((others, none), after)) :
    (contents sections (count + 1) 0 0 0 stop).run unread =
      ((valueEntries (sectionAt sections 0).entries ++ others, none), after) := by
  have hnext : nextUnread? sections unread [] 0 stop = some 0 :=
    hunread.next_eq_some (Nat.le_refl 0) hstop
  rw [contents, if_neg (by simp; omega)]
  have hrepeated : (0 ≠ 0 && (sectionAt sections 0).header ==
      (sectionAt sections 0).header) = false := rfl
  have habove : (0 ≠ 0 && (sectionAt sections 0).header.length <
      (sectionAt sections 0).header.length) = false := rfl
  have hkey : (sectionAt sections 0).header[0]? = none := by rw [hroot]; rfl
  simp only [run_bind, run_get, run_pure, List.take_zero, hnext, hrepeated, habove, hkey, helement,
    takeEntries_run hunread hstop, hrest, if_neg Bool.false_ne_true]

theorem ofSections_eq {sections : List Section} {entries : List (String × Node)}
    (h : ∀ count, sections.length ≤ count → ∃ after,
      (contents sections.toArray (count + 2) 0 0 0 sections.toArray.size).run
        (Array.replicate sections.length true) = ((entries, none), after)) :
    ofSections sections = .table entries none := by
  obtain ⟨count, hcount⟩ := Nat.exists_eq_add_of_le' (length_le_stepBound sections)
  obtain ⟨after, hrun⟩ := h (count + sections.length) (Nat.le_add_left _ _)
  have hrun : (contents sections.toArray (stepBound sections) 0 0 0 sections.length).run
      (Array.replicate sections.length true) = ((entries, none), after) := by
    rw [hcount]
    exact hrun
  simp only [ofSections, hrun]

theorem ofSections_tables {given : List Section}
    (hgiven : ∀ found ∈ given, found.header = [key] ∧ found.isElement = true) :
    ofSections given = .table (tableEntries key given) none := by
  refine ofSections_eq ?_
  intro count hcount
  exact contents_tables (areTables_toArray [] hgiven) (Or.inl rfl) (Nat.le_refl 0) (Nat.zero_le _)
    (by simp; omega) (unreadFrom_replicate given.length)

theorem ofSections_root {root : Section} {given : List Section} (hroot : root.header = [])
    (helement : root.isElement = false)
    (hgiven : ∀ found ∈ given, found.header = [key] ∧ found.isElement = true) :
    ofSections (root :: given) =
      .table (valueEntries root.entries ++ tableEntries key given) none := by
  refine ofSections_eq ?_
  intro count hcount
  have hfirst : (sectionAt (root :: given).toArray 0).header = [] := hroot
  have hvalues : (sectionAt (root :: given).toArray 0).isElement = false := helement
  have hunread := unreadFrom_replicate (root :: given).length
  have hbound : (root :: given).toArray.size ≤ 1 + count := Nat.le_trans hcount (by omega)
  obtain ⟨after, hrest⟩ := contents_tables (areTables_toArray [root] hgiven)
    (Or.inr ⟨Nat.zero_lt_one, hfirst⟩) (Nat.zero_le 1) (by simp) hbound hunread.take
  exact ⟨after, contents_root hfirst hvalues (Nat.succ_pos _) hunread hrest⟩

/-- Entries without a header, and then elements of an array of tables, make a root table. -/
theorem ofSections_document (values : List (String × Value)) {given : List Section}
    (hgiven : ∀ found ∈ given, found.header = [key] ∧ found.isElement = true) :
    ofSections (frontSections values ++ given) =
      .table (valueEntries values ++ tableEntries key given) none := by
  cases values with
  | nil => exact ofSections_tables hgiven
  | cons value values => exact ofSections_root rfl rfl hgiven

end ReleaseStamp.Toml.Node
