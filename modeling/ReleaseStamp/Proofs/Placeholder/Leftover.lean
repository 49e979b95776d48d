import Mathlib.Data.List.Sort
import Mathlib.Data.List.TakeWhile
import Mathlib.Data.String.Basic
import ReleaseStamp.Placeholder

/-!
# Placeholders that are left over

Where the placeholders of a text stand, and which of them a scan from left to right lists. The list
of what is left over is in order and holds each placeholder once, so it is fixed by its members.
-/
namespace ReleaseStamp.Placeholder

variable {text name after : List Char}

def IsName (name : List Char) : Prop := name ≠ [] ∧ ∀ c ∈ name, isNameChar c = true

instance (name : List Char) : Decidable (IsName name) := inferInstanceAs (Decidable (_ ∧ _))

def Occurs (text before name : List Char) : Prop := IsName name ∧ before ++ mark name <+: text

/-- No two placeholders of the text have a character in common. -/
def Separate (text : List Char) : Prop :=
  ∀ before name before' name', Occurs text before name → Occurs text before' name' →
    before.length < before'.length → (before ++ mark name).length ≤ before'.length

theorem split?_iff :
    split? text = some (name, after) ↔ IsName name ∧ text = mark name ++ after := by
  constructor
  · intro h
    obtain ⟨htext, hne⟩ := split?_eq h
    refine ⟨⟨hne, ?_⟩, htext⟩
    unfold split? at h
    split at h
    · rename_i rest
      simp only at h
      split at h
      · split at h
        · cases h
        · cases h
          intro c hc
          exact List.mem_takeWhile_imp hc
      · cases h
    · cases h
  · rintro ⟨hname, rfl⟩
    have hpercent : isNameChar '%' = false := by decide
    have htake : (name ++ '%' :: '%' :: after).takeWhile isNameChar = name := by
      rw [List.takeWhile_append_of_pos hname.2]
      simp [hpercent]
    have hdrop : (name ++ '%' :: '%' :: after).dropWhile isNameChar = '%' :: '%' :: after := by
      rw [List.dropWhile_append_of_pos hname.2]
      simp [hpercent]
    simp [mark, split?, htake, hdrop, hname.1]

theorem split?_mark (hname : IsName name) (after : List Char) :
    split? (mark name ++ after) = some (name, after) := split?_iff.mpr ⟨hname, rfl⟩

theorem split?_of_ne {c : Char} (h : c ≠ '%') (rest : List Char) : split? (c :: rest) = none := by
  unfold split?
  split
  · rename_i heq
    cases heq
    exact absurd rfl h
  · rfl

theorem occurs_of_split? (h : split? text = some (name, after)) (before : List Char) :
    Occurs (before ++ text) before name := by
  obtain ⟨hname, rfl⟩ := split?_iff.mp h
  exact ⟨hname, ⟨after, by simp⟩⟩

theorem Occurs.append (h : Occurs text after name) (before : List Char) :
    Occurs (before ++ text) (before ++ after) name := by
  obtain ⟨hname, rest, rfl⟩ := h
  exact ⟨hname, rest, by simp⟩

theorem Separate.suffix {before : List Char} (h : Separate (before ++ text)) : Separate text := by
  intro first name second name' hfirst hsecond hlt
  have hle := h _ name _ name' (hfirst.append before) (hsecond.append before) (by simpa using hlt)
  simp only [List.length_append] at hle ⊢
  omega

/-- In a placeholder no other one starts. -/
theorem Separate.inside (h : Separate (mark name ++ after)) (hname : IsName name)
    {init rest : List Char} (hmark : mark name = init ++ rest) (hinit : init ≠ [])
    (hrest : rest ≠ []) : split? (rest ++ after) = none := by
  cases hsplit : split? (rest ++ after) with
  | none => rfl
  | some found =>
    obtain ⟨other, tail⟩ := found
    have hother := occurs_of_split? hsplit init
    rw [← List.append_assoc, ← hmark] at hother
    have hfirst : Occurs (mark name ++ after) [] name := ⟨hname, ⟨after, rfl⟩⟩
    have hle := h [] name init other hfirst hother (List.length_pos_iff.mpr hinit)
    rw [List.nil_append, hmark, List.length_append] at hle
    have hpos := List.length_pos_iff.mpr hrest
    omega

theorem Occurs.split? {before : List Char} (h : Occurs text before name) :
    before.length < text.length ∧
      ∃ after, Placeholder.split? (text.drop before.length) = some (name, after) := by
  obtain ⟨hname, after, rfl⟩ := h
  constructor
  · simp [mark]
  · refine ⟨after, ?_⟩
    rw [List.append_assoc, List.drop_left]
    exact split?_mark hname after

/-- To see that a text is separate, it is enough to look at what starts at each two of its
places. -/
theorem separate_iff : Separate text ↔ ∀ i < text.length, ∀ j < text.length, i < j →
    ∀ first ∈ split? (text.drop i), ∀ second ∈ split? (text.drop j),
      i + (mark first.1).length ≤ j := by
  constructor
  · intro h i hi j hj hij first hfirst second hsecond
    have hfront := occurs_of_split? hfirst (text.take i)
    have hback := occurs_of_split? hsecond (text.take j)
    rw [List.take_append_drop] at hfront hback
    have hle := h _ _ _ _ hfront hback
    simp only [List.length_append, List.length_take] at hle
    omega
  · intro h before name before' name' hfirst hsecond hlt
    obtain ⟨hi, after, hfront⟩ := hfirst.split?
    obtain ⟨hj, after', hback⟩ := hsecond.split?
    rw [List.length_append]
    exact h _ hi _ hj hlt _ hfront _ hback

instance (text : List Char) : Decidable (Separate text) := decidable_of_iff _ separate_iff.symm

theorem occurrences_split (h : split? text = some (name, after)) :
    occurrences text = mark name :: occurrences after := by
  cases text with
  | nil => cases h
  | cons c rest =>
    rw [occurrences]
    split
    · rename_i name' after' h'
      rw [h] at h'
      cases h'
      rfl
    · rename_i h'
      rw [h] at h'
      cases h'

theorem occurrences_cons {c : Char} {rest : List Char} (h : split? (c :: rest) = none) :
    occurrences (c :: rest) = occurrences rest := by
  rw [occurrences]
  split
  · rename_i h'
    rw [h] at h'
    cases h'
  · rfl

theorem occurrences_append {value : List Char} (h : '%' ∉ value) (text : List Char) :
    occurrences (value ++ text) = occurrences text := by
  induction value with
  | nil => rfl
  | cons c value ih =>
    rw [List.mem_cons, not_or] at h
    rw [List.cons_append, occurrences_cons (split?_of_ne (Ne.symm h.1) _), ih h.2]

/-- What a scan of a text meets: a placeholder, or a character that none starts with. -/
theorem scan_induction {motive : List Char → Prop} (nil : motive [])
    (placeholder : ∀ text name after, split? text = some (name, after) → motive after →
      motive text)
    (char : ∀ c rest, split? (c :: rest) = none → motive rest → motive (c :: rest))
    (text : List Char) : motive text := by
  fun_induction occurrences text with
  | case1 => exact nil
  | case2 c rest name after h ih => exact placeholder _ name after h ih
  | case3 c rest h ih => exact char c rest h ih

/-- What the scan lists stands somewhere in the text. -/
theorem occurs_of_mem_occurrences {item : List Char} (h : item ∈ occurrences text) :
    ∃ before name, Occurs text before name ∧ item = mark name := by
  induction text using scan_induction with
  | nil => simp [occurrences] at h
  | placeholder text found after hsplit ih =>
    rw [occurrences_split hsplit] at h
    rcases List.mem_cons.mp h with rfl | h
    · exact ⟨[], found, occurs_of_split? hsplit [], rfl⟩
    · obtain ⟨before, name, hoccurs, rfl⟩ := ih h
      obtain ⟨_, rfl⟩ := split?_iff.mp hsplit
      exact ⟨_, name, hoccurs.append (mark found), rfl⟩
  | char c rest hsplit ih =>
    rw [occurrences_cons hsplit] at h
    obtain ⟨before, name, hoccurs, rfl⟩ := ih h
    exact ⟨_, name, hoccurs.append [c], rfl⟩

/-- A placeholder that the scan does not list starts inside one that it lists. -/
theorem Occurs.listed_or_covered {before : List Char} (h : Occurs text before name) :
    mark name ∈ occurrences text ∨ ∃ before' name', Occurs text before' name' ∧
      mark name' ∈ occurrences text ∧ before'.length < before.length ∧
      before.length < (before' ++ mark name').length := by
  induction text using scan_induction generalizing before with
  | nil => exact absurd h.split?.1 (Nat.not_lt_zero _)
  | placeholder text found after hsplit ih =>
    obtain ⟨hfound, rfl⟩ := split?_iff.mp hsplit
    rw [occurrences_split hsplit]
    by_cases hbehind : (mark found).length ≤ before.length
    · obtain ⟨hname, hprefix⟩ := h
      obtain ⟨rest, rfl⟩ : mark found <+: before :=
        List.prefix_of_prefix_length_le (List.prefix_append _ after)
          ((List.prefix_append before _).trans hprefix) hbehind
      rw [List.append_assoc, List.prefix_append_right_inj] at hprefix
      rcases ih ⟨hname, hprefix⟩ with hlisted | ⟨before', name', hoccurs, hlisted, hlt, hcover⟩
      · exact Or.inl (List.mem_cons_of_mem _ hlisted)
      · refine Or.inr ⟨_, name', hoccurs.append (mark found), List.mem_cons_of_mem _ hlisted,
          ?_, ?_⟩
        · simpa using hlt
        · simpa [Nat.add_assoc] using hcover
    · by_cases hstart : before = []
      · subst hstart
        obtain ⟨_, tail, htail⟩ := h.split?
        rw [List.length_nil, List.drop_zero, hsplit] at htail
        cases htail
        exact Or.inl List.mem_cons_self
      · refine Or.inr ⟨[], found, occurs_of_split? hsplit [], List.mem_cons_self, ?_, ?_⟩
        · exact List.length_pos_iff.mpr hstart
        · simpa using Nat.not_le.mp hbehind
  | char c rest hsplit ih =>
    rw [occurrences_cons hsplit]
    cases before with
    | nil =>
      obtain ⟨_, tail, htail⟩ := h.split?
      rw [List.length_nil, List.drop_zero, hsplit] at htail
      cases htail
    | cons d before =>
      obtain ⟨hname, hprefix⟩ := h
      rw [List.cons_append, List.cons_prefix_cons] at hprefix
      rcases ih ⟨hname, hprefix.2⟩ with hlisted | ⟨before', name', hoccurs, hlisted, hlt, hcover⟩
      · exact Or.inl hlisted
      · refine Or.inr ⟨_, name', hoccurs.append [c], hlisted, ?_, ?_⟩
        · simpa using hlt
        · simpa using hcover

theorem mark_infix_iff (hname : IsName name) :
    mark name <:+: text ↔ ∃ before, Occurs text before name := by
  constructor
  · rintro ⟨before, after, rfl⟩
    exact ⟨before, hname, List.prefix_append _ after⟩
  · rintro ⟨before, _, after, rfl⟩
    exact ⟨before, after, rfl⟩

theorem mem_dropRepeats {item : String} (items : List String) :
    item ∈ dropRepeats items ↔ item ∈ items := by
  fun_induction dropRepeats items with
  | case1 a rest ih =>
    rw [ih]
    simp
  | case2 a b rest hne ih => rw [List.mem_cons, List.mem_cons, ih]
  | case3 => rfl

theorem dropRepeats_pairwise {items : List String} (h : items.Pairwise (· ≤ ·)) :
    (dropRepeats items).Pairwise (· < ·) := by
  fun_induction dropRepeats items with
  | case1 a rest ih => exact ih (List.pairwise_cons.mp h).2
  | case2 a b rest hne ih =>
    obtain ⟨hle, hrest⟩ := List.pairwise_cons.mp h
    refine List.pairwise_cons.mpr ⟨?_, ih hrest⟩
    intro item hitem
    have hab : a < b := lt_of_le_of_ne (hle b List.mem_cons_self) hne
    rcases List.mem_cons.mp ((mem_dropRepeats (b :: rest)).mp hitem) with rfl | hitem
    · exact hab
    · exact lt_of_lt_of_le hab ((List.pairwise_cons.mp hrest).1 item hitem)
  | case3 items hshort =>
    match items, hshort with
    | [], _ => exact List.Pairwise.nil
    | [a], _ => exact List.pairwise_singleton _ _
    | a :: b :: rest, hshort => exact absurd rfl (hshort a b rest)

theorem leftovers_pairwise (text : String) : (leftovers text).Pairwise (· < ·) := by
  apply dropRepeats_pairwise
  have htrans : ∀ a b c : String, decide (a ≤ b) = true → decide (b ≤ c) = true →
      decide (a ≤ c) = true := by
    intro a b c hab hbc
    exact decide_eq_true (String.le_trans (of_decide_eq_true hab) (of_decide_eq_true hbc))
  have htotal : ∀ a b : String, (decide (a ≤ b) || decide (b ≤ a)) = true := by
    intro a b
    simpa using String.le_total a b
  simpa only [decide_eq_true_eq] using List.pairwise_mergeSort htrans htotal
    ((occurrences text.toList).map String.ofList)

theorem mem_leftovers {text item : String} :
    item ∈ leftovers text ↔ item.toList ∈ occurrences text.toList := by
  rw [leftovers, mem_dropRepeats, List.mem_mergeSort, List.mem_map]
  constructor
  · rintro ⟨found, hfound, rfl⟩
    rwa [String.toList_ofList]
  · intro h
    exact ⟨item.toList, h, String.ofList_toList⟩

/-- Nothing but placeholders of the text is left over. -/
theorem isName_of_mem_leftovers {text item : String} (h : item ∈ leftovers text) :
    ∃ name, IsName name ∧ item.toList = mark name ∧ mark name <:+: text.toList := by
  obtain ⟨before, name, hoccurs, hitem⟩ := occurs_of_mem_occurrences (mem_leftovers.mp h)
  exact ⟨name, hoccurs.1, hitem, (mark_infix_iff hoccurs.1).mpr ⟨before, hoccurs⟩⟩

theorem placeholder_mem_leftovers {text : String} :
    String.ofList (mark name) ∈ leftovers text ↔ mark name ∈ occurrences text.toList := by
  rw [mem_leftovers, String.toList_ofList]

/-- A text with a placeholder has one left over, if not always that one. -/
theorem leftovers_eq_nil_iff {text : String} :
    leftovers text = [] ↔ ∀ name, IsName name → ¬ mark name <:+: text.toList := by
  constructor
  · intro hnone name hname hmark
    obtain ⟨before, hoccurs⟩ := (mark_infix_iff hname).mp hmark
    obtain ⟨listed, hlisted⟩ : ∃ listed, mark listed ∈ occurrences text.toList := by
      rcases hoccurs.listed_or_covered with hlisted | ⟨_, name', _, hlisted, _⟩
      · exact ⟨name, hlisted⟩
      · exact ⟨name', hlisted⟩
    have hmem := placeholder_mem_leftovers.mpr hlisted
    rw [hnone] at hmem
    cases hmem
  · intro hfree
    rw [List.eq_nil_iff_forall_not_mem]
    intro item hitem
    obtain ⟨name, hname, _, hmark⟩ := isName_of_mem_leftovers hitem
    exact hfree name hname hmark

/-- Where no two placeholders overlap, all of them are left over. -/
theorem Separate.mem_leftovers {text : String} (h : Separate text.toList)
    (hname : IsName name) (hmark : mark name <:+: text.toList) :
    String.ofList (mark name) ∈ leftovers text := by
  obtain ⟨before, hoccurs⟩ := (mark_infix_iff hname).mp hmark
  rw [placeholder_mem_leftovers]
  rcases hoccurs.listed_or_covered with hlisted | ⟨before', name', hoccurs', _, hlt, hcover⟩
  · exact hlisted
  · exact absurd (h before' name' before name hoccurs' hoccurs hlt) (Nat.not_le.mpr hcover)

/-- The placeholders left over are known once it is known which ones they are. -/
theorem leftovers_eq {text : String} {items : List String} (hitems : items.Pairwise (· < ·))
    (h : ∀ item, item.toList ∈ occurrences text.toList ↔ item ∈ items) :
    leftovers text = items := by
  apply (leftovers_pairwise text).eq_of_mem_iff hitems
  intro item
  rw [mem_leftovers, h]

end ReleaseStamp.Placeholder
