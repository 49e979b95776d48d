import Mathlib.Data.List.TakeWhile

/-!
# Patterns

A pattern takes characters from the front of a text. There may be several ways to do so, and they
are tried in an order: a run is tried with as many characters as it can have, or with as few, and
what may be missing is tried first with it. The match is the first way on which the whole pattern
has been gone through, and the groups of the pattern keep what they have taken on it.
-/
namespace ReleaseStamp.Text

inductive Pattern where
  | text (chars : List Char)
  | one (accepts : Char → Bool)
  /-- Characters of a class, or none, and as many as there can be. -/
  | many (accepts : Char → Bool)
  /-- Characters of a class, at least one, and as few as there can be. -/
  | few (accepts : Char → Bool)
  | optional (pattern : Pattern)
  | group (pattern : Pattern)
  | append (first second : Pattern)
  /-- Nothing, and only at the end of the text. -/
  | stop

instance : Append Pattern := ⟨.append⟩

def Pattern.oneOrMore (accepts : Char → Bool) : Pattern := .one accepts ++ .many accepts

structure Match where
  taken : List Char
  groups : List (List Char)
  rest : List Char
deriving DecidableEq, Repr

def Match.cons (c : Char) (found : Match) : Match := { found with taken := c :: found.taken }

def Match.append (first second : Match) : Match :=
  ⟨first.taken ++ second.taken, first.groups ++ second.groups, second.rest⟩

def Match.group (found : Match) (index : Nat) : List Char := found.groups.getD index []

def manyWays (p : Char → Bool) : List Char → List Match
  | [] => [⟨[], [], []⟩]
  | c :: rest =>
    if p c then (manyWays p rest).map (.cons c) ++ [⟨[], [], c :: rest⟩] else [⟨[], [], c :: rest⟩]

def fewWays (p : Char → Bool) : List Char → List Match
  | [] => []
  | c :: rest => if p c then ⟨[c], [], rest⟩ :: (fewWays p rest).map (.cons c) else []

/-- The ways to take characters from the front of a text, in the order in which they are tried. -/
def Pattern.ways : Pattern → List Char → List Match
  | text chars, front =>
    if chars.isPrefixOf front then [⟨chars, [], front.drop chars.length⟩] else []
  | one _, [] => []
  | one p, c :: rest => if p c then [⟨[c], [], rest⟩] else []
  | many p, front => manyWays p front
  | few p, front => fewWays p front
  | optional pattern, front => pattern.ways front ++ [⟨[], [], front⟩]
  | group pattern, front =>
    (pattern.ways front).map fun found => { found with groups := found.taken :: found.groups }
  | append first second, front =>
    (first.ways front).flatMap fun found => (second.ways found.rest).map found.append
  | stop, [] => [⟨[], [], []⟩]
  | stop, _ :: _ => []

def Pattern.find? (pattern : Pattern) (front : List Char) : Option Match :=
  (pattern.ways front).head?

def Pattern.captured? (pattern : Pattern) (front : List Char) : Option (List Char) :=
  (pattern.find? front).map (·.groups.flatten)

/-- The matches of a text from left to right, and the characters that are in none of them. A match
has at least one character, and none is in two of them. -/
def Pattern.scan (pattern : Pattern) (front : List Char) : List (Char ⊕ Match) :=
  match front with
  | [] => []
  | c :: rest =>
    match pattern.find? (c :: rest) with
    | some found =>
      if _h : found.rest.length ≤ rest.length then .inr found :: pattern.scan found.rest
      else .inl c :: pattern.scan rest
    | none => .inl c :: pattern.scan rest
termination_by front.length
decreasing_by all_goals simp; try omega

def Pattern.findAll (pattern : Pattern) (front : List Char) : List Match :=
  (pattern.scan front).filterMap Sum.getRight?

def Pattern.isIn (pattern : Pattern) : List Char → Bool
  | [] => (pattern.find? []).isSome
  | c :: rest => (pattern.find? (c :: rest)).isSome || pattern.isIn rest

def Pattern.replace (pattern : Pattern) (value : Match → List Char) (front : List Char) :
    List Char :=
  match pattern.find? front with
  | some found => value found ++ found.rest
  | none => front

def Pattern.replaceAll (pattern : Pattern) (value : Match → List Char) (front : List Char) :
    List Char :=
  (pattern.scan front).flatMap (Sum.elim (fun c => [c]) value)

/-- What a pattern takes and keeps in front of `rest` on any of its ways. -/
def Pattern.Takes : Pattern → (taken : List Char) → (groups : List (List Char)) →
    (rest : List Char) → Prop
  | text chars, taken, groups, _ => taken = chars ∧ groups = []
  | one p, taken, groups, _ => ∃ c, p c = true ∧ taken = [c] ∧ groups = []
  | many p, taken, groups, _ => (∀ c ∈ taken, p c = true) ∧ groups = []
  | few p, taken, groups, _ => taken ≠ [] ∧ (∀ c ∈ taken, p c = true) ∧ groups = []
  | optional pattern, taken, groups, rest =>
    pattern.Takes taken groups rest ∨ taken = [] ∧ groups = []
  | group pattern, taken, groups, rest =>
    ∃ inner, pattern.Takes taken inner rest ∧ groups = taken :: inner
  | append first second, taken, groups, rest =>
    ∃ front back inFront inBack, first.Takes front inFront (back ++ rest) ∧
      second.Takes back inBack rest ∧ taken = front ++ back ∧ groups = inFront ++ inBack
  | stop, taken, groups, rest => taken = [] ∧ groups = [] ∧ rest = []

variable {p : Char → Bool} {pattern next : Pattern} {c : Char} {front rest : List Char}
  {found : Match}

theorem takes_append {first second : Pattern} {taken : List Char} {groups : List (List Char)} :
    (first ++ second).Takes taken groups rest ↔ ∃ front back inFront inBack,
      first.Takes front inFront (back ++ rest) ∧ second.Takes back inBack rest ∧
        taken = front ++ back ∧ groups = inFront ++ inBack := Iff.rfl

theorem mem_map_cons {ways : List Match} : found ∈ ways.map (.cons c) ↔
    ∃ taken, found.taken = c :: taken ∧ ⟨taken, found.groups, found.rest⟩ ∈ ways := by
  rw [List.mem_map]
  constructor
  · rintro ⟨shorter, hmem, rfl⟩
    exact ⟨shorter.taken, rfl, hmem⟩
  · rintro ⟨taken, htaken, hmem⟩
    exact ⟨_, hmem, by rw [Match.cons, ← htaken]⟩

theorem mem_manyWays : found ∈ manyWays p front ↔
    ((∀ c ∈ found.taken, p c = true) ∧ found.groups = []) ∧ front = found.taken ++ found.rest := by
  obtain ⟨taken, groups, rest⟩ := found
  induction front generalizing taken with
  | nil =>
    have hsplit : [] = taken ++ rest ↔ taken = [] ∧ rest = [] := by simp
    rw [manyWays, List.mem_singleton, Match.mk.injEq, hsplit]
    constructor
    · rintro ⟨rfl, rfl, rfl⟩
      simp
    · rintro ⟨⟨-, hgroups⟩, htaken, hrest⟩
      exact ⟨htaken, hgroups, hrest⟩
  | cons c front ih =>
    cases taken with
    | nil =>
      have hnothing : (⟨[], groups, rest⟩ : Match) ∈ manyWays p (c :: front) ↔
          groups = [] ∧ rest = c :: front := by
        by_cases hc : p c = true <;> simp [manyWays, hc, mem_map_cons]
      rw [hnothing]
      constructor
      · rintro ⟨rfl, rfl⟩
        exact ⟨⟨List.forall_mem_nil _, rfl⟩, rfl⟩
      · rintro ⟨⟨-, rfl⟩, hrest⟩
        exact ⟨rfl, hrest.symm⟩
    | cons d taken =>
      by_cases hc : p c = true
      · simp only [manyWays, if_pos hc, List.mem_append, mem_map_cons, ih, List.cons.injEq,
          List.mem_singleton, Match.mk.injEq, reduceCtorEq, false_and, or_false, List.cons_append,
          List.forall_mem_cons]
        grind
      · simp only [manyWays, if_neg hc, List.mem_singleton, Match.mk.injEq, reduceCtorEq,
          false_and, List.cons_append, List.cons.injEq, List.forall_mem_cons, false_iff]
        grind

theorem mem_fewWays : found ∈ fewWays p front ↔
    (found.taken ≠ [] ∧ (∀ c ∈ found.taken, p c = true) ∧ found.groups = []) ∧
      front = found.taken ++ found.rest := by
  obtain ⟨taken, groups, rest⟩ := found
  induction front generalizing taken with
  | nil => cases taken <;> simp [fewWays]
  | cons c front ih =>
    cases taken with
    | nil => by_cases hc : p c = true <;> simp [fewWays, hc, mem_map_cons]
    | cons d taken =>
      by_cases hc : p c = true
      · simp only [fewWays, if_pos hc, List.mem_cons, mem_map_cons, ih, List.cons.injEq,
          Match.mk.injEq, List.cons_append]
        grind
      · simp only [fewWays, if_neg hc, List.not_mem_nil, List.cons_append, List.cons.injEq,
          List.forall_mem_cons, false_iff]
        grind

theorem mem_ways_text {chars : List Char} : found ∈ (Pattern.text chars).ways front ↔
    (found.taken = chars ∧ found.groups = []) ∧ front = found.taken ++ found.rest := by
  rw [Pattern.ways]
  constructor
  · intro h
    split at h
    · rename_i hprefix
      obtain ⟨rest, rfl⟩ := List.isPrefixOf_iff_prefix.mp hprefix
      rw [List.drop_left, List.mem_singleton] at h
      subst h
      exact ⟨⟨rfl, rfl⟩, rfl⟩
    · cases h
  · obtain ⟨taken, groups, rest⟩ := found
    rintro ⟨⟨rfl, rfl⟩, rfl⟩
    simp

theorem mem_ways_one : found ∈ (Pattern.one p).ways front ↔
    (∃ c, p c = true ∧ found.taken = [c] ∧ found.groups = []) ∧
      front = found.taken ++ found.rest := by
  constructor
  · intro h
    cases front with
    | nil => cases h
    | cons c front =>
      rw [Pattern.ways] at h
      split at h
      · rename_i hc
        cases List.mem_singleton.mp h
        exact ⟨⟨c, hc, rfl, rfl⟩, rfl⟩
      · cases h
  · obtain ⟨taken, groups, rest⟩ := found
    rintro ⟨⟨c, hc, rfl, rfl⟩, rfl⟩
    simp [Pattern.ways, hc]

theorem mem_ways_append {first second : Pattern} : found ∈ (first.append second).ways front ↔
    ∃ one ∈ first.ways front, ∃ two ∈ second.ways one.rest, one.append two = found := by
  simp only [Pattern.ways, List.mem_flatMap, List.mem_map]

/-- The ways of a pattern are those that it takes characters in. -/
theorem mem_ways : found ∈ pattern.ways front ↔
    pattern.Takes found.taken found.groups found.rest ∧ front = found.taken ++ found.rest := by
  induction pattern generalizing front found with
  | text chars => exact mem_ways_text
  | one p => exact mem_ways_one
  | many p => exact mem_manyWays
  | few p => exact mem_fewWays
  | optional pattern ih =>
    rw [Pattern.ways, Pattern.Takes, List.mem_append, ih, or_and_right, List.mem_singleton]
    apply or_congr_right
    obtain ⟨taken, groups, rest⟩ := found
    constructor
    · rintro ⟨⟩
      exact ⟨⟨rfl, rfl⟩, rfl⟩
    · rintro ⟨⟨rfl, rfl⟩, rfl⟩
      rfl
  | group pattern ih =>
    rw [Pattern.ways, Pattern.Takes, List.mem_map]
    constructor
    · rintro ⟨inner, hinner, rfl⟩
      obtain ⟨htakes, hfront⟩ := ih.mp hinner
      exact ⟨⟨inner.groups, htakes, rfl⟩, hfront⟩
    · rintro ⟨⟨inner, htakes, hgroups⟩, hfront⟩
      exact ⟨⟨found.taken, inner, found.rest⟩, ih.mpr ⟨htakes, hfront⟩, by rw [← hgroups]⟩
  | append first second ihFirst ihSecond =>
    simp only [mem_ways_append, ihFirst, ihSecond, Pattern.Takes]
    constructor
    · rintro ⟨one, ⟨htakes, hfront⟩, two, ⟨htakes', hrest⟩, rfl⟩
      refine ⟨⟨one.taken, two.taken, one.groups, two.groups, hrest ▸ htakes, htakes', rfl, rfl⟩, ?_⟩
      rw [hfront, hrest, Match.append, List.append_assoc]
    · rintro ⟨⟨front', back, inFront, inBack, htakes, htakes', htaken, hgroups⟩, hfront⟩
      refine ⟨⟨front', inFront, back ++ found.rest⟩, ⟨htakes, ?_⟩, ⟨back, inBack, found.rest⟩,
        ⟨htakes', rfl⟩, ?_⟩
      · rw [hfront, htaken, List.append_assoc]
      · rw [Match.append, ← htaken, ← hgroups]
  | stop =>
    rw [Pattern.Takes]
    constructor
    · intro h
      cases front with
      | nil =>
        cases List.mem_singleton.mp h
        exact ⟨⟨rfl, rfl, rfl⟩, rfl⟩
      | cons c front => cases h
    · obtain ⟨taken, groups, rest⟩ := found
      rintro ⟨⟨rfl, rfl, rfl⟩, rfl⟩
      exact List.mem_singleton_self _

theorem find?_isSome_iff : (pattern.find? front).isSome = true ↔
    ∃ taken groups rest, pattern.Takes taken groups rest ∧ front = taken ++ rest := by
  rw [Pattern.find?, List.isSome_head?]
  constructor
  · intro hne
    obtain ⟨found, hfound⟩ := List.exists_mem_of_ne_nil _ hne
    exact ⟨_, _, _, mem_ways.mp hfound⟩
  · rintro ⟨taken, groups, rest, htakes⟩
    have hmem : ⟨taken, groups, rest⟩ ∈ pattern.ways front := mem_ways.mpr htakes
    exact List.ne_nil_of_mem hmem

theorem captured?_append (first second : Pattern) (front : List Char) :
    (first ++ second).captured? front = (first.ways front).findSome? fun found =>
      (second.captured? found.rest).map (found.groups.flatten ++ ·) := by
  have hways : (first ++ second).ways front =
      (first.ways front).flatMap fun found => (second.ways found.rest).map found.append := rfl
  rw [Pattern.captured?, Pattern.find?, hways, List.head?_flatMap, List.map_findSome?]
  congr 1
  funext found
  simp [Pattern.captured?, Pattern.find?, Match.append, Function.comp_def]

theorem captured?_one (h : p c = true) : (Pattern.one p).captured? (c :: rest) = some [] := by
  simp [Pattern.captured?, Pattern.find?, Pattern.ways, h]

theorem captured?_one_eq_none (h : ∀ c ∈ front.head?, p c = false) :
    (Pattern.one p).captured? front = none := by
  cases front with
  | nil => rfl
  | cons c front => simp [Pattern.captured?, Pattern.find?, Pattern.ways, h c rfl]

theorem captured?_one_stop (h : ∀ c ∈ front.head?, p c = false) :
    (.one p ++ next : Pattern).captured? front = none := by
  rw [captured?_append]
  cases front with
  | nil => rfl
  | cons c front => simp [Pattern.ways, h c rfl]

theorem captured?_one_cons (h : p c = true) :
    (.one p ++ next : Pattern).captured? (c :: rest) = next.captured? rest := by
  simp [captured?_append, Pattern.ways, h]

theorem captured?_optional_stop (h : ∀ c ∈ front.head?, p c = false) :
    (.optional (.one p) ++ next : Pattern).captured? front = next.captured? front := by
  rw [captured?_append]
  cases front with
  | nil => simp [Pattern.ways]
  | cons c front => simp [Pattern.ways, h c rfl]

theorem captured?_optional_cons (h : p c = true) :
    (.optional (.one p) ++ next : Pattern).captured? (c :: rest) =
      (next.captured? rest).or (next.captured? (c :: rest)) := by
  simp only [captured?_append, Pattern.ways, if_pos h, List.singleton_append, List.findSome?_cons]
  cases hrest : next.captured? rest with
  | none => cases hwhole : next.captured? (c :: rest) <;> simp
  | some captured => simp

theorem captured?_many_stop (h : ∀ c ∈ front.head?, p c = false) :
    (.many p ++ next : Pattern).captured? front = next.captured? front := by
  rw [captured?_append]
  cases front with
  | nil => simp [Pattern.ways, manyWays]
  | cons c front => simp [Pattern.ways, manyWays, h c rfl]

theorem captured?_many_cons (h : p c = true) :
    (.many p ++ next : Pattern).captured? (c :: rest) =
      ((.many p ++ next : Pattern).captured? rest).or (next.captured? (c :: rest)) := by
  simp only [captured?_append, Pattern.ways, manyWays, if_pos h, List.findSome?_append,
    List.findSome?_map]
  simp [Match.cons, Function.comp_def]

theorem captured?_few_stop (h : ∀ c ∈ front.head?, p c = false) :
    (.group (.few p) ++ next : Pattern).captured? front = none := by
  rw [captured?_append]
  cases front with
  | nil => simp [Pattern.ways, fewWays]
  | cons c front => simp [Pattern.ways, fewWays, h c rfl]

theorem captured?_few_cons (h : p c = true) :
    (.group (.few p) ++ next : Pattern).captured? (c :: rest) =
      ((next.captured? rest).or ((.group (.few p) ++ next : Pattern).captured? rest)).map
        (c :: ·) := by
  simp only [captured?_append, Pattern.ways, fewWays, if_pos h, List.map_cons, List.findSome?_cons,
    List.findSome?_map, List.map_map]
  cases hrest : next.captured? rest with
  | none => simp [Match.cons, List.map_findSome?, Function.comp_def]
  | some captured => simp

/-- What a pattern cannot start with, the run in front of it takes as a whole. -/
theorem captured?_many (hnext : ∀ c rest, p c = true → next.captured? (c :: rest) = none)
    (front : List Char) :
    (.many p ++ next : Pattern).captured? front = next.captured? (front.dropWhile p) := by
  induction front with
  | nil => exact captured?_many_stop (by simp)
  | cons c rest ih =>
    by_cases hc : p c = true
    · rw [captured?_many_cons hc, ih, hnext c rest hc, List.dropWhile_cons_of_pos hc,
        Option.or_none]
    · rw [List.dropWhile_cons_of_neg hc]
      exact captured?_many_stop (by simpa using hc)

/-- The pattern takes the texts of a language, and keeps nothing. -/
def Pattern.HasLanguage (pattern : Pattern) (language : List Char → Prop) : Prop :=
  ∀ taken groups rest, pattern.Takes taken groups rest ↔ language taken ∧ groups = []

variable {first second : Pattern} {A B language : List Char → Prop}

theorem Pattern.HasLanguage.congr (h : pattern.HasLanguage A) (hAB : ∀ text, A text ↔ B text) :
    pattern.HasLanguage B := by
  intro taken groups rest
  rw [h, hAB]

theorem hasLanguage_text (chars : List Char) : (Pattern.text chars).HasLanguage (· = chars) :=
  fun _ _ _ => Iff.rfl

theorem hasLanguage_many (p : Char → Bool) :
    (Pattern.many p).HasLanguage fun text => ∀ c ∈ text, p c = true :=
  fun _ _ _ => Iff.rfl

theorem hasLanguage_one (p : Char → Bool) :
    (Pattern.one p).HasLanguage fun text => ∃ c, p c = true ∧ text = [c] := by
  intro taken groups rest
  simp only [Pattern.Takes]
  constructor
  · rintro ⟨c, hc, htaken, hgroups⟩
    exact ⟨⟨c, hc, htaken⟩, hgroups⟩
  · rintro ⟨⟨c, hc, htaken⟩, hgroups⟩
    exact ⟨c, hc, htaken, hgroups⟩

theorem Pattern.HasLanguage.optional (h : pattern.HasLanguage A) :
    (Pattern.optional pattern).HasLanguage fun text => A text ∨ text = [] := by
  intro taken groups rest
  rw [Pattern.Takes, h, or_and_right]

theorem Pattern.HasLanguage.takes_append (h : first.HasLanguage A) {taken : List Char}
    {groups : List (List Char)} : (first ++ second).Takes taken groups rest ↔
      ∃ front back, A front ∧ second.Takes back groups rest ∧ taken = front ++ back := by
  rw [Text.takes_append]
  constructor
  · rintro ⟨front, back, inFront, inBack, hfirst, hsecond, rfl, rfl⟩
    obtain ⟨hfront, rfl⟩ := (h _ _ _).mp hfirst
    exact ⟨front, back, hfront, hsecond, rfl⟩
  · rintro ⟨front, back, hfront, hsecond, rfl⟩
    exact ⟨front, back, [], groups, (h _ _ _).mpr ⟨hfront, rfl⟩, hsecond, rfl, rfl⟩

theorem Pattern.HasLanguage.takes_group_append (h : first.HasLanguage A) {taken : List Char}
    {groups : List (List Char)} : (.group first ++ second : Pattern).Takes taken groups rest ↔
      ∃ front back inBack, A front ∧ second.Takes back inBack rest ∧ taken = front ++ back ∧
        groups = front :: inBack := by
  rw [Text.takes_append]
  constructor
  · rintro ⟨front, back, _, inBack, ⟨inner, hfirst, rfl⟩, hsecond, rfl, rfl⟩
    obtain ⟨hfront, rfl⟩ := (h _ _ _).mp hfirst
    exact ⟨front, back, inBack, hfront, hsecond, rfl, rfl⟩
  · rintro ⟨front, back, inBack, hfront, hsecond, rfl, rfl⟩
    exact ⟨front, back, [front], inBack, ⟨[], (h _ _ _).mpr ⟨hfront, rfl⟩, rfl⟩, hsecond, rfl, rfl⟩

theorem Pattern.HasLanguage.append (hfirst : first.HasLanguage A) (hsecond : second.HasLanguage B) :
    (first ++ second).HasLanguage fun text =>
      ∃ front back, A front ∧ B back ∧ text = front ++ back := by
  intro taken groups rest
  rw [hfirst.takes_append]
  constructor
  · rintro ⟨front, back, hfront, htakes, rfl⟩
    obtain ⟨hback, hgroups⟩ := (hsecond _ _ _).mp htakes
    exact ⟨⟨front, back, hfront, hback, rfl⟩, hgroups⟩
  · rintro ⟨⟨front, back, hfront, hback, rfl⟩, hgroups⟩
    exact ⟨front, back, hfront, (hsecond _ _ _).mpr ⟨hback, hgroups⟩, rfl⟩

theorem hasLanguage_oneOrMore (p : Char → Bool) :
    (Pattern.oneOrMore p).HasLanguage fun text => text ≠ [] ∧ ∀ c ∈ text, p c = true := by
  refine ((hasLanguage_one p).append (hasLanguage_many p)).congr fun text => ?_
  constructor
  · rintro ⟨_, run, ⟨c, hc, rfl⟩, hrun, rfl⟩
    exact ⟨List.cons_ne_nil c run, List.forall_mem_cons.mpr ⟨hc, hrun⟩⟩
  · rintro ⟨hne, hall⟩
    obtain ⟨c, run, rfl⟩ := List.exists_cons_of_ne_nil hne
    obtain ⟨hc, hrun⟩ := List.forall_mem_cons.mp hall
    exact ⟨[c], run, ⟨c, hc, rfl⟩, hrun, rfl⟩

theorem Pattern.HasLanguage.find?_isSome_iff (h : pattern.HasLanguage A) :
    (pattern.find? front).isSome = true ↔ ∃ taken, A taken ∧ taken <+: front := by
  rw [Text.find?_isSome_iff]
  constructor
  · rintro ⟨taken, groups, rest, htakes, rfl⟩
    exact ⟨taken, ((h _ _ _).mp htakes).1, List.prefix_append taken rest⟩
  · rintro ⟨taken, htaken, rest, rfl⟩
    exact ⟨taken, [], rest, (h _ _ _).mpr ⟨htaken, rfl⟩, rfl⟩

/-- Where a text can be taken in one way only, this is the match. -/
theorem find?_eq_some (h : found ∈ pattern.ways front)
    (honce : ∀ other ∈ pattern.ways front, other = found) : pattern.find? front = some found := by
  obtain ⟨first, others, hways⟩ := List.exists_cons_of_ne_nil (List.ne_nil_of_mem h)
  rw [Pattern.find?, hways, List.head?_cons, honce first (hways ▸ List.mem_cons_self)]

theorem find?_eq_none_iff :
    pattern.find? front = none ↔ ∀ found, found ∉ pattern.ways front := by
  rw [Pattern.find?, List.head?_eq_none_iff, List.eq_nil_iff_forall_not_mem]

/-- What a reader finds is the match, if the ways of a pattern are what the reader can find. -/
theorem find?_eq_map {α : Type} {read : Option α} {toMatch : α → Match}
    (h : ∀ found, found ∈ pattern.ways front ↔ ∃ value, read = some value ∧ toMatch value = found) :
    pattern.find? front = read.map toMatch := by
  cases read with
  | none => simpa [find?_eq_none_iff] using h
  | some value =>
    refine find?_eq_some ((h _).mpr ⟨value, rfl, rfl⟩) fun other hother => ?_
    obtain ⟨value', hvalue, hmatch⟩ := (h other).mp hother
    cases hvalue
    exact hmatch.symm

theorem scan_nil (pattern : Pattern) : pattern.scan [] = [] := by rw [Pattern.scan]

theorem scan_cons (h : pattern.find? (c :: rest) = none) :
    pattern.scan (c :: rest) = .inl c :: pattern.scan rest := by
  rw [Pattern.scan, h]

theorem scan_found (h : pattern.find? front = some found) (hne : found.taken ≠ []) :
    pattern.scan front = .inr found :: pattern.scan found.rest := by
  obtain ⟨-, rfl⟩ := mem_ways.mp (List.mem_of_mem_head? h)
  obtain ⟨c, taken, htaken⟩ := List.exists_cons_of_ne_nil hne
  rw [htaken, List.cons_append] at h ⊢
  rw [Pattern.scan, h]
  simp

end ReleaseStamp.Text
