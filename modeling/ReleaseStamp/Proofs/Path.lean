import Mathlib.Data.List.TakeWhile
import ReleaseStamp.Path

/-!
# The names of a path

What joining a name to a path, and taking the last one away, do to the names that are followed.
-/
namespace ReleaseStamp.Path

def IsName (name : Path) : Prop :=
  name ≠ "" ∧ slash ∉ name.bytes ∧ name ≠ "." ∧ name ≠ ".."

instance (name : Path) : Decidable (IsName name) := inferInstanceAs (Decidable (_ ∧ _))

theorem lt_trans {first second third : Path} (h : first < second) (h' : second < third) :
    first < third := List.lt_trans h h'

theorem lt_irrefl (path : Path) : ¬path < path := List.lt_irrefl path.bytes

theorem lt_asymm {first second : Path} (h : first < second) : ¬second < first := List.lt_asymm h

instance : Std.Irrefl (α := Path) (· < ·) := ⟨lt_irrefl⟩

instance : Std.Asymm (α := Path) (· < ·) := ⟨fun _ _ => lt_asymm⟩

theorem lt_or_lt_of_ne {a b : Path} (h : a ≠ b) : a < b ∨ b < a := by
  by_contra hnone
  rw [not_or] at hnone
  exact h (Path.ext (List.le_antisymm (List.not_lt.mp hnone.2) (List.not_lt.mp hnone.1)))

theorem parts_append (before after : List UInt8) :
    parts (before ++ slash :: after) = parts before ++ parts after := by
  induction before with
  | nil => simp [parts]
  | cons c before ih =>
    rw [List.cons_append, parts, parts]
    split
    · rw [ih, List.cons_append]
    · rw [ih]
      cases h : parts before with
      | nil => exact absurd h (parts_ne_nil before)
      | cons part others => rfl

theorem parts_of_not_mem {text : List UInt8} (h : slash ∉ text) : parts text = [text] := by
  induction text with
  | nil => rfl
  | cons c text ih =>
    have hc : c ≠ slash := fun eq => h (eq ▸ List.mem_cons_self)
    rw [parts, if_neg hc, ih fun hm => h (List.mem_cons_of_mem c hm)]

theorem slash_not_mem_of_mem_parts {text part : List UInt8} (h : part ∈ parts text) :
    slash ∉ part := by
  induction text generalizing part with
  | nil =>
    rw [parts, List.mem_singleton] at h
    simp [h]
  | cons c text ih =>
    rw [parts] at h
    split at h
    · rcases List.mem_cons.mp h with rfl | h
      · exact List.not_mem_nil
      · exact ih h
    · rename_i hc
      cases hparts : parts text with
      | nil => exact absurd hparts (parts_ne_nil text)
      | cons first others =>
        rw [hparts] at h ih
        rcases List.mem_cons.mp h with rfl | h
        · simp [Ne.symm hc, ih List.mem_cons_self]
        · exact ih (List.mem_cons_of_mem first h)

theorem unparts_cons (part next : List UInt8) (others : List (List UInt8)) :
    unparts (part :: next :: others) = part ++ slash :: unparts (next :: others) := rfl

theorem unparts_append {before after : List (List UInt8)} (hbefore : before ≠ [])
    (hafter : after ≠ []) :
    unparts (before ++ after) = unparts before ++ slash :: unparts after := by
  induction before with
  | nil => exact absurd rfl hbefore
  | cons part before ih =>
    cases before with
    | nil =>
      obtain ⟨next, after, rfl⟩ := List.exists_cons_of_ne_nil hafter
      rfl
    | cons next before =>
      have hrest := ih (List.cons_ne_nil next before)
      rw [List.cons_append] at hrest
      rw [List.cons_append, List.cons_append, unparts_cons, unparts_cons, hrest, List.append_assoc,
        List.cons_append]

theorem parts_unparts {kept : List (List UInt8)} (hne : kept ≠ [])
    (h : ∀ part ∈ kept, slash ∉ part) : parts (unparts kept) = kept := by
  induction kept with
  | nil => exact absurd rfl hne
  | cons part kept ih =>
    have hpart := h part List.mem_cons_self
    cases kept with
    | nil => exact parts_of_not_mem hpart
    | cons next kept =>
      have hrest := ih (List.cons_ne_nil next kept) fun p hp => h p (List.mem_cons_of_mem part hp)
      rw [unparts_cons, parts_append, parts_of_not_mem hpart, hrest, List.singleton_append]

def stepsOf (kept : List (List UInt8)) : List Path :=
  (kept.filter (!·.isEmpty)).map Path.mk

theorem steps_eq (path : Path) : steps path = stepsOf (parts path.bytes) := rfl

theorem stepsOf_append (before after : List (List UInt8)) :
    stepsOf (before ++ after) = stepsOf before ++ stepsOf after := by
  simp [stepsOf]

theorem stepsOf_name {name : Path} (h : IsName name) : stepsOf [name.bytes] = [name] := by
  have hne : name.bytes.isEmpty = false := by
    rw [List.isEmpty_eq_false_iff, Ne, bytes_eq_nil_iff]
    exact h.1
  simp [stepsOf, hne]

theorem isName_of_mem_steps {path name : Path} (h : name ∈ steps path) (hpoint : name ≠ ".")
    (hpoints : name ≠ "..") : IsName name := by
  obtain ⟨part, hpart, rfl⟩ := List.mem_map.mp h
  obtain ⟨hpart, hne⟩ := List.mem_filter.mp hpart
  refine ⟨?_, slash_not_mem_of_mem_parts hpart, hpoint, hpoints⟩
  rw [Ne, ← bytes_eq_nil_iff]
  simpa using hne

theorem not_isAbsolute_name {name : Path} (h : IsName name) : isAbsolute name = false := by
  rw [isAbsolute, beq_eq_false_iff_ne]
  intro hhead
  exact h.2.1 (List.mem_of_mem_head? hhead)

/-- Joining puts a slash and the name behind the path, but for a slash that is there. -/
theorem bytes_join {name : Path} (h : IsName name) (path : Path) :
    (∃ before, path.bytes = before ++ [slash] ∧
      (join path name).bytes = before ++ slash :: name.bytes) ∨
    (path = "" ∧ join path name = name) ∨
    (join path name).bytes = path.bytes ++ slash :: name.bytes := by
  rw [join, not_isAbsolute_name h, if_neg Bool.false_ne_true]
  by_cases hempty : path = ""
  · subst hempty
    exact Or.inr (Or.inl ⟨rfl, by simp⟩)
  · by_cases hslash : endsWithSlash path = true
    · left
      rw [endsWithSlash, beq_iff_eq] at hslash
      obtain ⟨before, hbefore⟩ := List.getLast?_eq_some_iff.mp hslash
      refine ⟨before, hbefore, ?_⟩
      simp [endsWithSlash, hbefore]
    · right
      right
      simp [hempty, hslash]

theorem steps_join {name : Path} (h : IsName name) (path : Path) :
    steps (join path name) = steps path ++ [name] := by
  have hname := parts_of_not_mem h.2.1
  rcases bytes_join h path with ⟨before, hpath, hjoin⟩ | ⟨rfl, hjoin⟩ | hjoin
  · rw [steps_eq, steps_eq, hjoin, hpath, parts_append, parts_append, hname, stepsOf_append,
      stepsOf_append, stepsOf_name h]
    simp [parts, stepsOf]
  · rw [hjoin, steps_eq, hname, stepsOf_name h]
    rfl
  · rw [steps_eq, steps_eq, hjoin, parts_append, hname, stepsOf_append, stepsOf_name h]

theorem isAbsolute_congr {a b : Path} (h : a.bytes <+: b.bytes) (hne : a ≠ "") :
    isAbsolute a = isAbsolute b := by
  obtain ⟨rest, hb⟩ := h
  obtain ⟨c, tail, ha⟩ := List.exists_cons_of_ne_nil (mt bytes_eq_nil_iff.mp hne)
  rw [isAbsolute, isAbsolute, ← hb, ha]
  rfl

theorem isAbsolute_join {name : Path} (h : IsName name) (path : Path) :
    isAbsolute (join path name) = isAbsolute path := by
  by_cases hne : path = ""
  · subst hne
    have hjoin : join "" name = name := by
      rw [join, not_isAbsolute_name h]
      simp
    rw [hjoin, not_isAbsolute_name h]
    rfl
  · refine (isAbsolute_congr ?_ hne).symm
    rcases bytes_join h path with ⟨before, hpath, hjoin⟩ | ⟨rfl, _⟩ | hjoin
    · exact ⟨name.bytes, by rw [hpath, hjoin]; simp⟩
    · exact absurd rfl hne
    · exact ⟨slash :: name.bytes, hjoin.symm⟩

theorem endsWithSlash_join {name : Path} (h : IsName name) (path : Path) :
    endsWithSlash (join path name) = false := by
  have hne : name.bytes ≠ [] := mt bytes_eq_nil_iff.mp h.1
  have hlast : ∀ before : List UInt8, (before ++ name.bytes).getLast? ≠ some slash := by
    intro before hslash
    rw [List.getLast?_append, List.getLast?_eq_some_getLast hne, Option.some_or] at hslash
    have hm := List.getLast_mem hne
    rw [Option.some.inj hslash] at hm
    exact h.2.1 hm
  rw [endsWithSlash, beq_eq_false_iff_ne]
  rcases bytes_join h path with ⟨before, _, hjoin⟩ | ⟨_, hjoin⟩ | hjoin
  · rw [hjoin, show before ++ slash :: name.bytes = (before ++ [slash]) ++ name.bytes by simp]
    exact hlast _
  · rw [hjoin]
    exact hlast []
  · rw [hjoin, ← List.singleton_append, ← List.append_assoc]
    exact hlast _

structure Ends (path last : Path) : Prop where
  name : IsName last
  slash : endsWithSlash path = false
  steps : (steps path).getLast? = some last

theorem Ends.steps_eq {path last : Path} (h : Ends path last) :
    Path.steps path = (Path.steps path).dropLast ++ [last] := by
  obtain ⟨init, hinit⟩ := List.getLast?_eq_some_iff.mp h.steps
  rw [hinit, List.dropLast_concat]

theorem ends_join {name : Path} (h : IsName name) (path : Path) : Ends (join path name) name :=
  ⟨h, endsWithSlash_join h path, by rw [steps_join h, List.getLast?_concat]⟩

theorem isIdle_iff {part : List UInt8} : isIdle part = true ↔ part = [] ∨ part = [point] := by
  simp [isIdle]

theorem stepsOf_idle {idle : List (List UInt8)} (h : ∀ part ∈ idle, isIdle part = true) :
    ∀ name ∈ stepsOf idle, name = "." := by
  intro name hname
  obtain ⟨part, hpart, rfl⟩ := List.mem_map.mp hname
  obtain ⟨hpart, hne⟩ := List.mem_filter.mp hpart
  rcases isIdle_iff.mp (h part hpart) with rfl | rfl
  · cases hne
  · rfl

/-- Parts at the end that are no components are dropped, and nothing else. -/
theorem trimParts_cons (first : List UInt8) (rest : List (List UInt8)) :
    ∃ kept idle, trimParts (first :: rest) = first :: kept ∧ rest = kept ++ idle ∧
      ∀ part ∈ idle, isIdle part = true := by
  have hsplit := List.takeWhile_append_dropWhile (p := isIdle) (l := rest.reverse)
  refine ⟨_, (rest.reverse.takeWhile isIdle).reverse, rfl, ?_, ?_⟩
  · rw [← List.reverse_append, hsplit, List.reverse_reverse]
  · intro part hpart
    exact List.mem_takeWhile_imp (List.mem_reverse.mp hpart)

theorem trimParts_of_last {first last : List UInt8} (h : isIdle last = false)
    (rest : List (List UInt8)) :
    trimParts (first :: (rest ++ [last])) = first :: (rest ++ [last]) := by
  simp [trimParts, h]

/-- The text of parts that are kept: its names, and that it starts like the whole path. -/
theorem ofParts_spec {first : List UInt8} {kept idle : List (List UInt8)} {last : List UInt8}
    {path : Path} (hparts : parts path.bytes = first :: kept ++ idle ++ [last]) :
    ofParts (first :: kept) ≠ "" ∧ (ofParts (first :: kept)).bytes <+: path.bytes ∧
      steps (ofParts (first :: kept)) = stepsOf (first :: kept) := by
  have hslash : ∀ part ∈ first :: kept, slash ∉ part := by
    intro part hpart
    have hmem : part ∈ parts path.bytes := by
      rw [hparts, List.append_assoc]
      exact List.mem_append_left _ hpart
    exact slash_not_mem_of_mem_parts hmem
  have hwhole : path.bytes = unparts (first :: kept) ++ slash :: unparts (idle ++ [last]) := by
    rw [← unparts_parts path.bytes, hparts, List.append_assoc]
    exact unparts_append (List.cons_ne_nil _ _) (by simp)
  by_cases hroot : first :: kept = [[]]
  · rw [ofParts, if_pos (beq_iff_eq.mpr hroot), hwhole, hroot]
    refine ⟨by decide, ⟨unparts (idle ++ [last]), rfl⟩, ?_⟩
    decide
  · rw [ofParts, if_neg (mt beq_iff_eq.mp hroot)]
    have hback := parts_unparts (List.cons_ne_nil first kept) hslash
    refine ⟨?_, ?_, ?_⟩
    · intro hempty
      rw [← bytes_eq_nil_iff] at hempty
      rw [show unparts (first :: kept) = [] from hempty] at hback
      exact hroot hback.symm
    · rw [hwhole]
      exact List.prefix_append _ _
    · rw [steps_eq, hback]

theorem parent?_eq {path : Path} {first last : List UInt8} {mid : List (List UInt8)}
    (hparts : parts path.bytes = first :: (mid ++ [last])) (hlast : isIdle last = false) :
    parent? path = some (ofParts (trimParts (first :: mid))) := by
  rw [parent?, hparts, trimParts_of_last hlast]
  cases mid with
  | nil => rfl
  | cons next mid =>
    simp only [List.cons_append]
    rw [← List.cons_append, ← List.cons_append, List.dropLast_concat]

/-- The path without its last name. Points before that name may be left out too. -/
theorem Ends.parent? {path last : Path} (h : Ends path last) :
    parent? path = some "" ∨ ∃ folder dots, parent? path = some folder ∧ folder ≠ "" ∧
      folder.bytes <+: path.bytes ∧ (Path.steps path).dropLast = Path.steps folder ++ dots ∧
      ∀ dot ∈ dots, dot = "." := by
  have hsteps := h.steps_eq
  have hend := h.slash
  generalize (Path.steps path).dropLast = names at hsteps ⊢
  obtain ⟨init, final, hparts⟩ : ∃ init final, parts path.bytes = init ++ [final] :=
    ⟨_, _, (List.dropLast_concat_getLast (parts_ne_nil path.bytes)).symm⟩
  have hwhole := unparts_parts path.bytes
  rw [hparts] at hwhole
  have hfinal : final ≠ [] := by
    rintro rfl
    cases init with
    | nil =>
      rw [Path.steps_eq, hparts] at hsteps
      simp [stepsOf] at hsteps
    | cons first mid =>
      rw [unparts_append (List.cons_ne_nil first mid) (List.cons_ne_nil [] [])] at hwhole
      rw [endsWithSlash, ← hwhole] at hend
      simp [unparts] at hend
  have hnames : names = stepsOf init ∧ last = ⟨final⟩ := by
    have hone : stepsOf [final] = [⟨final⟩] := by
      simp [stepsOf, hfinal]
    rw [Path.steps_eq, hparts, stepsOf_append, hone] at hsteps
    have hsplit := List.append_inj' hsteps rfl
    exact ⟨hsplit.1.symm, (List.singleton_inj.mp hsplit.2).symm⟩
  have hidle : isIdle final = false := by
    rw [Bool.eq_false_iff, Ne, isIdle_iff]
    rintro (hempty | rfl)
    · exact hfinal hempty
    · exact h.name.2.2.1 hnames.2
  cases init with
  | nil =>
    left
    simp [Path.parent?, hparts, trimParts, hfinal]
  | cons first mid =>
    right
    obtain ⟨kept, idle, htrim, rfl, hdots⟩ := trimParts_cons first mid
    have hspec : parts path.bytes = first :: kept ++ idle ++ [final] := by
      simpa using hparts
    obtain ⟨hne, hprefix, hfolder⟩ := ofParts_spec hspec
    refine ⟨ofParts (first :: kept), stepsOf idle, ?_, hne, hprefix, ?_, stepsOf_idle hdots⟩
    · rw [parent?_eq hparts hidle, htrim]
    · rw [hnames.1, hfolder, ← stepsOf_append, List.cons_append]

/-- `above` is the start of a path that has all its names on the way. -/
structure IsAbove (above path : Path) : Prop where
  nonempty : above ≠ ""
  start : above.bytes <+: path.bytes
  steps : steps above <+: steps path

theorem IsAbove.refl {path : Path} (h : path ≠ "") : IsAbove path path :=
  ⟨h, List.prefix_rfl, List.prefix_rfl⟩

theorem IsAbove.trans {first second third : Path} (h : IsAbove first second)
    (h' : IsAbove second third) : IsAbove first third :=
  ⟨h.nonempty, h.start.trans h'.start, h.steps.trans h'.steps⟩

theorem IsAbove.isAbsolute {above path : Path} (h : IsAbove above path) :
    Path.isAbsolute above = Path.isAbsolute path := isAbsolute_congr h.start h.nonempty

theorem isAbove_ofParts {path : Path} {first : List UInt8} {kept more : List (List UInt8)}
    (hmore : more ≠ []) (hparts : parts path.bytes = first :: kept ++ more) :
    IsAbove (ofParts (first :: kept)) path := by
  obtain ⟨idle, last, rfl⟩ : ∃ idle last, more = idle ++ [last] :=
    ⟨_, _, (List.dropLast_concat_getLast hmore).symm⟩
  rw [← List.append_assoc] at hparts
  obtain ⟨hne, hstart, hsteps⟩ := ofParts_spec hparts
  refine ⟨hne, hstart, ?_⟩
  rw [hsteps, steps_eq path, hparts, List.append_assoc, stepsOf_append]
  exact List.prefix_append _ _

theorem isAbove_parent {path above : Path} (h : parent? path = some above) :
    above = "" ∨ IsAbove above path := by
  obtain ⟨first, rest, hparts⟩ := List.exists_cons_of_ne_nil (parts_ne_nil path.bytes)
  obtain ⟨kept, idle, htrim, rfl, _⟩ := trimParts_cons first rest
  rw [parent?, hparts, htrim] at h
  rcases List.eq_nil_or_concat kept with rfl | ⟨mid, last, rfl⟩
  · simp only at h
    split at h
    · cases h
    · exact Or.inl (Option.some.inj h).symm
  · obtain ⟨inner, dots, htrim', rfl, _⟩ := trimParts_cons first mid
    have hkept : (first :: (inner ++ dots).concat last).dropLast = first :: (inner ++ dots) := by
      rw [List.concat_eq_append, ← List.cons_append, List.dropLast_concat]
    have habove : above = ofParts (first :: inner) := by
      split at h
      · rename_i hnil
        cases hnil
      · rename_i hone
        simp at hone
      · rw [hkept, htrim'] at h
        exact (Option.some.inj h).symm
    right
    rw [habove]
    have hmore : dots ++ last :: idle ≠ [] := by simp
    apply isAbove_ofParts hmore
    rw [hparts]
    simp

theorem isAbove_ancestors {count : Nat} {path above : Path}
    (h : above ∈ ancestorsUpTo count path) : above = "" ∨ IsAbove above path := by
  induction count generalizing path with
  | zero => cases h
  | succ count ih =>
    rw [ancestorsUpTo] at h
    rcases List.mem_cons.mp h with rfl | h
    · by_cases hempty : above = ""
      · exact Or.inl hempty
      · exact Or.inr (.refl hempty)
    · cases hparent : parent? path with
      | none =>
        rw [hparent] at h
        cases h
      | some parent =>
        rw [hparent] at h
        rcases ih h with hempty | habove
        · exact Or.inl hempty
        · rcases isAbove_parent hparent with rfl | hparent
          · exact absurd (List.prefix_nil.mp habove.start)
              (mt bytes_eq_nil_iff.mp habove.nonempty)
          · exact Or.inr (habove.trans hparent)

end ReleaseStamp.Path
