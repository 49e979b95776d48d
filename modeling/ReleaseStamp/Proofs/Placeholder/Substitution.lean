import Mathlib.Data.List.Induction
import ReleaseStamp.Proofs.Placeholder.Leftover

/-!
# Filling as one substitution

Filling takes one token after the other, each in the text that the one before has left. If the
placeholders of the text do not overlap, and no value can be part of a placeholder, this is the same
as replacing all of them in one pass over the text.
-/
namespace ReleaseStamp.Placeholder

variable {tokens first second : List (List Char × List Char)}
  {text name value before run rest after : List Char}

/-- The value for the placeholder at the front of a text, if its name is listed, and what follows
the placeholder. -/
def expand? (tokens : List (List Char × List Char)) (text : List Char) :
    Option (List Char × List Char) := do
  let (name, after) ← split? text
  let value ← tokens.lookup name
  return (value, after)

theorem expand?_iff : expand? tokens text = some (value, after) ↔
    ∃ name, split? text = some (name, after) ∧ tokens.lookup name = some value := by
  simp only [expand?, Option.bind_eq_bind, Option.bind_eq_some_iff, Prod.exists]
  constructor
  · rintro ⟨name, _, hsplit, _, hlookup, h⟩
    cases h
    exact ⟨name, hsplit, hlookup⟩
  · rintro ⟨name, hsplit, hlookup⟩
    exact ⟨name, after, hsplit, value, hlookup, rfl⟩

theorem expand?_length (h : expand? tokens text = some (value, after)) :
    after.length < text.length := by
  obtain ⟨name, hsplit, _⟩ := expand?_iff.mp h
  exact split?_length hsplit

/-- Replaces every placeholder with a listed name by its value, and keeps all else. What has been
put in is not read again. -/
def substituteText (tokens : List (List Char × List Char)) (text : List Char) : List Char :=
  match text with
  | [] => []
  | c :: rest =>
    match _h : expand? tokens (c :: rest) with
    | some (value, after) => value ++ substituteText tokens after
    | none => c :: substituteText tokens rest
termination_by text.length
decreasing_by
  · exact expand?_length ‹_›
  · simp

theorem substituteText_expand (h : expand? tokens text = some (value, after)) :
    substituteText tokens text = value ++ substituteText tokens after := by
  cases text with
  | nil => cases h
  | cons c rest =>
    rw [substituteText]
    split
    · rename_i h'
      rw [h] at h'
      cases h'
      rfl
    · rename_i h'
      rw [h] at h'
      cases h'

theorem substituteText_keep {c : Char} (h : expand? tokens (c :: rest) = none) :
    substituteText tokens (c :: rest) = c :: substituteText tokens rest := by
  rw [substituteText]
  split
  · rename_i h'
    rw [h] at h'
    cases h'
  · rfl

theorem substituteText_nil (tokens : List (List Char × List Char)) :
    substituteText tokens [] = [] := by
  rw [substituteText]

theorem expand?_of_ne {c : Char} (h : c ≠ '%') (tokens : List (List Char × List Char))
    (rest : List Char) : expand? tokens (c :: rest) = none := by
  simp [expand?, split?_of_ne h]

/-- Text without a percent sign is kept. -/
theorem substituteText_append (h : '%' ∉ run) (tokens : List (List Char × List Char))
    (text : List Char) :
      substituteText tokens (run ++ text) = run ++ substituteText tokens text := by
  induction run with
  | nil => rfl
  | cons c run ih =>
    rw [List.mem_cons, not_or] at h
    rw [List.cons_append, substituteText_keep (expand?_of_ne (Ne.symm h.1) tokens _), ih h.2,
      List.cons_append]

/-- The value has no percent sign, and something in it that is in no name. -/
structure Solid (value : List Char) : Prop where
  percent : '%' ∉ value
  outside : ∃ c ∈ value, isNameChar c = false

theorem solid_iff {value : List Char} :
    Solid value ↔ '%' ∉ value ∧ value.all isNameChar = false := by
  rw [List.all_eq_false]
  constructor
  · rintro ⟨hpercent, c, hmem, houtside⟩
    exact ⟨hpercent, c, hmem, Bool.eq_false_iff.mp houtside⟩
  · rintro ⟨hpercent, c, hmem, houtside⟩
    exact ⟨hpercent, c, hmem, Bool.eq_false_iff.mpr houtside⟩

instance (value : List Char) : Decidable (Solid value) := decidable_of_iff' _ solid_iff

def SolidValues (tokens : List (List Char × List Char)) : Prop := ∀ token ∈ tokens, Solid token.2

theorem mem_of_lookup (h : tokens.lookup name = some value) : (name, value) ∈ tokens := by
  obtain ⟨init, tail, rfl, _⟩ := List.lookup_eq_some_iff.mp h
  simp

theorem SolidValues.expand? (h : SolidValues tokens)
    (hexpand : Placeholder.expand? tokens text = some (value, after)) : Solid value := by
  obtain ⟨name, _, hlookup⟩ := expand?_iff.mp hexpand
  exact h _ (mem_of_lookup hlookup)

/-- A solid value cannot be covered by what placeholders are made of. -/
theorem Solid.not_covered (h : Solid value)
    (hrun : ∀ c ∈ run, isNameChar c = true ∨ c = '%') (text : List Char) :
    value ++ text ≠ run ++ '%' :: after := by
  obtain ⟨c, hc, hother⟩ := h.outside
  have hpercent : c ≠ '%' := by
    rintro rfl
    exact h.percent hc
  have hout : c ∉ run := by
    intro hmem
    rcases hrun c hmem with hname | rfl
    · rw [hother] at hname
      cases hname
    · exact hpercent rfl
  intro heq
  rcases List.append_eq_append_iff.mp heq with ⟨extra, rfl, _⟩ | ⟨extra, rfl, hextra⟩
  · exact hout (List.mem_append_left extra hc)
  · cases extra with
    | nil =>
      rw [List.append_nil] at hc
      exact hout hc
    | cons d extra =>
      cases hextra
      exact h.percent (List.mem_append_right run List.mem_cons_self)

/-- What starts with names and percent signs, and has a percent sign behind them, does not start
with a value. -/
theorem kept_first (hvalues : SolidValues tokens)
    (hrun : ∀ c ∈ run, isNameChar c = true ∨ c = '%')
    (h : substituteText tokens text = run ++ '%' :: after) :
    ∃ c rest, text = c :: rest ∧ c :: substituteText tokens rest = run ++ '%' :: after := by
  cases text with
  | nil =>
    rw [substituteText_nil] at h
    exact absurd h.symm (List.append_ne_nil_of_right_ne_nil run (List.cons_ne_nil _ _))
  | cons c rest =>
    cases hexpand : expand? tokens (c :: rest) with
    | some found =>
      rw [substituteText_expand hexpand] at h
      exact absurd h ((hvalues.expand? hexpand).not_covered hrun _)
    | none =>
      rw [substituteText_keep hexpand] at h
      exact ⟨c, rest, rfl, h⟩

/-- What ends with a percent sign, and is made of names and percent signs up to there, has not been
put in: the text starts with it too. -/
theorem kept_run (hvalues : SolidValues tokens)
    (hrun : ∀ c ∈ run, isNameChar c = true ∨ c = '%')
    (h : substituteText tokens text = run ++ '%' :: after) :
    ∃ rest, text = run ++ '%' :: rest ∧ substituteText tokens rest = after := by
  obtain ⟨c, rest, rfl, hkept⟩ := kept_first hvalues hrun h
  clear h
  induction run generalizing c rest with
  | nil =>
    cases hkept
    exact ⟨rest, rfl, rfl⟩
  | cons d run ih =>
    rw [List.cons_append, List.cons.injEq] at hkept
    obtain ⟨rfl, hkept⟩ := hkept
    have hrun' := (List.forall_mem_cons.mp hrun).2
    obtain ⟨c', rest', rfl, hnext⟩ := kept_first hvalues hrun' hkept
    obtain ⟨tail, htail, hafter⟩ := ih hrun' c' rest' hnext
    exact ⟨tail, by rw [htail]; rfl, hafter⟩

/-- A percent sign has not been put in. -/
theorem kept_percent (hvalues : SolidValues tokens)
    (h : substituteText tokens text = before ++ '%' :: after) :
    ∃ init rest, text = init ++ '%' :: rest ∧
      substituteText tokens ('%' :: rest) = '%' :: after := by
  fun_induction substituteText tokens text generalizing before with
  | case1 => simp at h
  | case2 c rest value found hexpand ih =>
    have hsolid := hvalues.expand? hexpand
    obtain ⟨name, hsplit, _⟩ := expand?_iff.mp hexpand
    obtain ⟨_, hfound⟩ := split?_iff.mp hsplit
    have hlater : ∃ extra, substituteText tokens found = extra ++ '%' :: after := by
      rcases List.append_eq_append_iff.mp h with ⟨extra, _, hextra⟩ | ⟨extra, rfl, hextra⟩
      · exact ⟨extra, hextra⟩
      · cases extra with
        | nil => exact ⟨[], hextra.symm⟩
        | cons d extra =>
          cases hextra
          exact absurd (List.mem_append_right before List.mem_cons_self) hsolid.percent
    obtain ⟨extra, hextra⟩ := hlater
    obtain ⟨init, tail, rfl, htail⟩ := ih hextra
    exact ⟨mark name ++ init, tail, by rw [hfound, List.append_assoc], htail⟩
  | case3 c rest hexpand ih =>
    cases before with
    | nil =>
      cases h
      exact ⟨[], rest, rfl, substituteText_keep hexpand⟩
    | cons d before =>
      rw [List.cons_append, List.cons.injEq] at h
      obtain ⟨rfl, h⟩ := h
      obtain ⟨init, tail, rfl, htail⟩ := ih h
      exact ⟨c :: init, tail, rfl, htail⟩

theorem mark_eq (name : List Char) : ∃ run, mark name = run ++ ['%'] ∧
    (IsName name → ∀ c ∈ run, isNameChar c = true ∨ c = '%') := by
  refine ⟨'%' :: '%' :: name ++ ['%'], by simp [mark], ?_⟩
  intro hname c hc
  simp only [List.cons_append, List.mem_cons, List.mem_append, List.not_mem_nil, or_false] at hc
  rcases hc with rfl | rfl | hc | rfl
  · exact Or.inr rfl
  · exact Or.inr rfl
  · exact Or.inl (hname.2 c hc)
  · exact Or.inr rfl

/-- A placeholder at the front of the result stands at the front of the text. -/
theorem kept_placeholder (hvalues : SolidValues tokens)
    (h : split? (substituteText tokens text) = some (name, after)) :
    ∃ rest, split? text = some (name, rest) := by
  obtain ⟨hname, htext⟩ := split?_iff.mp h
  obtain ⟨run, hmark, hrun⟩ := mark_eq name
  rw [hmark, List.append_assoc] at htext
  obtain ⟨rest, hrest, _⟩ := kept_run hvalues (hrun hname) htext
  refine ⟨rest, split?_iff.mpr ⟨hname, ?_⟩⟩
  rw [hmark, List.append_assoc]
  exact hrest

theorem expand?_of_split?_none (h : split? text = none)
    (tokens : List (List Char × List Char)) : expand? tokens text = none := by
  simp [expand?, h]

theorem expand?_of_split? (h : split? text = some (name, after)) :
    expand? tokens text = (tokens.lookup name).map (·, after) := by
  simp only [expand?, h, Option.bind_eq_bind, Option.bind_some]
  cases tokens.lookup name <;> rfl

theorem Separate.expand?_inside (h : Separate (mark name ++ after)) (hname : IsName name)
    (hlookup : tokens.lookup name = none) {init rest : List Char}
    (hmark : mark name = init ++ rest) (hrest : rest ≠ []) :
    expand? tokens (rest ++ after) = none := by
  by_cases hinit : init = []
  · subst hinit
    rw [List.nil_append] at hmark
    rw [← hmark, expand?_of_split? (split?_mark hname after), hlookup, Option.map_none]
  · exact expand?_of_split?_none (h.inside hname hmark hinit hrest) tokens

/-- A placeholder with no listed name is kept as a whole. -/
theorem Separate.substituteText_mark (h : Separate (mark name ++ after)) (hname : IsName name)
    (hlookup : tokens.lookup name = none) :
    substituteText tokens (mark name ++ after) = mark name ++ substituteText tokens after := by
  suffices hrest : ∀ rest init, mark name = init ++ rest →
      substituteText tokens (rest ++ after) = rest ++ substituteText tokens after from
    hrest (mark name) [] rfl
  intro rest
  induction rest with
  | nil =>
    intro init _
    rfl
  | cons c rest ih =>
    intro init hmark
    have hexpand := h.expand?_inside hname hlookup hmark (List.cons_ne_nil c rest)
    rw [List.cons_append] at hexpand
    rw [List.cons_append, substituteText_keep hexpand,
      ih (init ++ [c]) (by rw [hmark, List.append_assoc]; rfl), List.cons_append]

theorem lookup_append (first second : List (List Char × List Char)) (name : List Char) :
    (first ++ second).lookup name = (first.lookup name).or (second.lookup name) := by
  induction first with
  | nil => rfl
  | cons token first ih =>
    obtain ⟨other, value⟩ := token
    rw [List.cons_append, List.lookup_cons, List.lookup_cons]
    split
    · rfl
    · exact ih

theorem expand?_append (h : split? text = some (name, after)) :
    expand? (first ++ second) text =
      ((first.lookup name).or (second.lookup name)).map (·, after) := by
  rw [expand?_of_split? h, lookup_append]

/-- A substitution brings up no placeholder that the text did not have. -/
theorem expand?_substituteText (hfirst : SolidValues first)
    (h : expand? (first ++ second) text = none) :
    expand? first text = none ∧ expand? second (substituteText first text) = none := by
  constructor
  · cases hsplit : split? text with
    | none => exact expand?_of_split?_none hsplit first
    | some found =>
      rw [expand?_append hsplit, Option.map_eq_none_iff, Option.or_eq_none_iff] at h
      rw [expand?_of_split? hsplit, h.1, Option.map_none]
  · cases hsplit : split? (substituteText first text) with
    | none => exact expand?_of_split?_none hsplit second
    | some found =>
      obtain ⟨rest, hback⟩ := kept_placeholder hfirst hsplit
      rw [expand?_append hback, Option.map_eq_none_iff, Option.or_eq_none_iff] at h
      rw [expand?_of_split? hsplit, h.2, Option.map_none]

/-- Two substitutions one after the other are one. -/
theorem substituteText_substituteText (htext : Separate text) (hfirst : SolidValues first) :
    substituteText second (substituteText first text) = substituteText (first ++ second) text := by
  fun_induction substituteText (first ++ second) text with
  | case1 => simp only [substituteText_nil]
  | case2 c rest value after hexpand ih =>
    obtain ⟨name, hsplit, hlookup⟩ := expand?_iff.mp hexpand
    obtain ⟨hname, htext'⟩ := split?_iff.mp hsplit
    rw [htext'] at htext
    rw [lookup_append] at hlookup
    have hafter := ih htext.suffix
    cases hlisted : first.lookup name with
    | some value' =>
      have hfront := expand?_iff.mpr ⟨name, hsplit, hlisted⟩
      rw [hlisted, Option.some_or, Option.some.injEq] at hlookup
      rw [substituteText_expand hfront, substituteText_append (hfirst.expand? hfront).percent,
        hafter, hlookup]
    | none =>
      rw [hlisted, Option.none_or] at hlookup
      have hfront := expand?_iff.mpr
        ⟨name, split?_mark hname (substituteText first after), hlookup⟩
      rw [htext', htext.substituteText_mark hname hlisted, substituteText_expand hfront, hafter]
  | case3 c rest hexpand ih =>
    obtain ⟨hkeep, hnew⟩ := expand?_substituteText hfirst hexpand
    rw [substituteText_keep hkeep] at hnew
    have hrest : Separate ([c] ++ rest) := htext
    rw [substituteText_keep hkeep, substituteText_keep hnew, ih hrest.suffix]

theorem lookup_singleton {found : List Char} :
    [(name, value)].lookup run = some found ↔ run = name ∧ found = value := by
  by_cases hname : run = name
  · subst hname
    simp [eq_comm]
  · simp [List.lookup_cons, beq_eq_false_iff_ne.mpr hname, hname]

/-- Replacing the placeholders of one name is a substitution. -/
theorem replaceAll_mark (hname : IsName name) (value text : List Char) :
    Text.replaceAll (mark name) value text = substituteText [(name, value)] text := by
  change Text.replaceFrom (mark name) value 0 text = _
  fun_induction substituteText [(name, value)] text with
  | case1 => rfl
  | case2 c rest found after hexpand ih =>
    obtain ⟨other, hsplit, hlookup⟩ := expand?_iff.mp hexpand
    obtain ⟨rfl, rfl⟩ := lookup_singleton.mp hlookup
    obtain ⟨_, htext⟩ := split?_iff.mp hsplit
    have hfront := Text.replaceFrom_append '%' ('%' :: other ++ ['%', '%']) found after
    rw [htext, ← ih]
    exact hfront
  | case3 c rest hexpand ih =>
    have hfront : (mark name).isPrefixOf (c :: rest) = false := by
      rw [Bool.eq_false_iff]
      intro hprefix
      obtain ⟨after, htext⟩ := List.isPrefixOf_iff_prefix.mp hprefix
      have hsplit := split?_mark hname after
      rw [htext] at hsplit
      rw [expand?_iff.mpr ⟨name, hsplit, lookup_singleton.mpr ⟨rfl, rfl⟩⟩] at hexpand
      cases hexpand
    rw [Text.replaceFrom, hfront, if_neg Bool.false_ne_true, ih]

theorem substituteText_no_tokens (text : List Char) : substituteText [] text = text := by
  induction text with
  | nil => exact substituteText_nil []
  | cons c rest ih =>
    have hnone : expand? [] (c :: rest) = none := by
      cases hsplit : split? (c :: rest) with
      | none => exact expand?_of_split?_none hsplit []
      | some found => rw [expand?_of_split? hsplit, List.lookup_nil, Option.map_none]
    rw [substituteText_keep hnone, ih]

/-- Filling is one substitution. -/
theorem fillText_eq (htext : Separate text) (hnames : ∀ token ∈ tokens, IsName token.1)
    (hvalues : SolidValues tokens) : fillText text tokens = substituteText tokens text := by
  induction tokens using List.reverseRecOn with
  | nil => exact (substituteText_no_tokens text).symm
  | append_singleton tokens token ih =>
    have hbefore := ih (fun other hother => hnames other (List.mem_append_left _ hother))
      (fun other hother => hvalues other (List.mem_append_left _ hother))
    have hlast : fillText text (tokens ++ [token]) =
        Text.replaceAll (mark token.1) token.2 (fillText text tokens) := by
      simp [fillText]
    rw [hlast, hbefore, replaceAll_mark (hnames token (by simp)),
      substituteText_substituteText htext
        (fun other hother => hvalues other (List.mem_append_left _ hother))]

theorem mark_inj {name' : List Char} : mark name = mark name' ↔ name = name' := by
  simp [mark]

theorem mark_mem_iff : mark name ∈ tokens.map (fun token => mark token.1) ↔
    tokens.lookup name ≠ none := by
  rw [Ne, List.lookup_eq_none_iff, List.mem_map]
  constructor
  · rintro ⟨token, htoken, hmark⟩ hnone
    have hne := hnone token htoken
    rw [mark_inj.mp hmark] at hne
    simp at hne
  · intro hsome
    by_contra hnone
    refine hsome fun token htoken => ?_
    rw [bne_iff_ne]
    intro hname
    exact hnone ⟨token, htoken, by rw [hname]⟩

/-- The placeholders with a listed name are gone, and the others are still there. -/
theorem occurrences_substituteText (htext : Separate text) (hvalues : SolidValues tokens) :
    occurrences (substituteText tokens text) =
      (occurrences text).filter (· ∉ tokens.map fun token => mark token.1) := by
  induction text using scan_induction with
  | nil =>
    rw [substituteText_nil]
    simp [occurrences]
  | placeholder text name after hsplit ih =>
    obtain ⟨hname, rfl⟩ := split?_iff.mp hsplit
    have hafter := ih htext.suffix
    rw [occurrences_split hsplit, List.filter_cons]
    cases hlookup : tokens.lookup name with
    | some value =>
      have hexpand := expand?_iff.mpr ⟨name, hsplit, hlookup⟩
      have hlisted : mark name ∈ tokens.map fun token => mark token.1 :=
        mark_mem_iff.mpr (by simp [hlookup])
      rw [substituteText_expand hexpand, occurrences_append (hvalues.expand? hexpand).percent,
        hafter, if_neg (by simpa using hlisted)]
    | none =>
      have hother : mark name ∉ tokens.map fun token => mark token.1 := by
        rw [mark_mem_iff, hlookup]
        simp
      rw [htext.substituteText_mark hname hlookup, occurrences_split (split?_mark hname _), hafter,
        if_pos (by simpa using hother)]
  | char c rest hsplit ih =>
    have hkeep := expand?_of_split?_none hsplit tokens
    have hnew : split? (c :: substituteText tokens rest) = none := by
      rw [← substituteText_keep hkeep]
      cases hfound : split? (substituteText tokens (c :: rest)) with
      | none => rfl
      | some found =>
        obtain ⟨_, hback⟩ := kept_placeholder hvalues hfound
        rw [hsplit] at hback
        cases hback
    have hrest : Separate ([c] ++ rest) := htext
    rw [substituteText_keep hkeep, occurrences_cons hnew, occurrences_cons hsplit, ih hrest.suffix]

/-- No placeholder with a listed name is left, wherever it might start. -/
theorem not_mark_infix (hvalues : SolidValues tokens) (hname : IsName name)
    (hlookup : tokens.lookup name = some value) (text : List Char) :
    ¬ mark name <:+: substituteText tokens text := by
  rintro ⟨before, after, h⟩
  have hpercent : substituteText tokens text =
      before ++ '%' :: ('%' :: name ++ ['%', '%'] ++ after) := by
    rw [← h]
    simp [mark]
  obtain ⟨init, rest, _, hrest⟩ := kept_percent hvalues hpercent
  have hfront : substituteText tokens ('%' :: rest) = mark name ++ after := by
    rw [hrest]
    simp [mark]
  have hsplit := split?_mark hname after
  rw [← hfront] at hsplit
  obtain ⟨tail, htail⟩ := kept_placeholder hvalues hsplit
  have hexpand := expand?_iff.mpr ⟨name, htail, hlookup⟩
  have hhead : ∀ text, value ++ text ≠ [] ++ '%' :: ('%' :: name ++ ['%', '%'] ++ after) :=
    (hvalues.expand? hexpand).not_covered (List.forall_mem_nil _)
  rw [substituteText_expand hexpand] at hrest
  exact hhead _ hrest

theorem lookup_eq_some_iff_mem (honce : (tokens.map Prod.fst).Nodup) :
    tokens.lookup name = some value ↔ (name, value) ∈ tokens := by
  constructor
  · exact mem_of_lookup
  · intro hmem
    induction tokens with
    | nil => cases hmem
    | cons token tokens ih =>
      obtain ⟨other, found⟩ := token
      obtain ⟨hnew, honce'⟩ := List.nodup_cons.mp honce
      rw [List.lookup_cons]
      rcases List.mem_cons.mp hmem with heq | hrest
      · cases heq
        simp
      · have hne : name ≠ other := by
          intro heq
          have hfirst : name ∈ tokens.map Prod.fst := List.mem_map_of_mem hrest
          exact hnew (heq ▸ hfirst)
        rw [beq_eq_false_iff_ne.mpr hne]
        exact ih honce' hrest

theorem substituteText_congr {tokens' : List (List Char × List Char)}
    (h : ∀ name, tokens.lookup name = tokens'.lookup name) (text : List Char) :
    substituteText tokens text = substituteText tokens' text := by
  have hexpand : ∀ text, expand? tokens text = expand? tokens' text := by
    intro text
    simp only [expand?, h]
  fun_induction substituteText tokens text with
  | case1 => exact (substituteText_nil tokens').symm
  | case2 c rest value after hfront ih =>
    rw [hexpand] at hfront
    rw [substituteText_expand hfront, ih]
  | case3 c rest hfront ih =>
    rw [hexpand] at hfront
    rw [substituteText_keep hfront, ih]

def spelled (tokens : List (String × String)) : List (List Char × List Char) :=
  tokens.map fun (token, value) => (token.toList, value.toList)

def substitute (text : String) (tokens : List (String × String)) : String :=
  String.ofList (substituteText (spelled tokens) text.toList)

def placeholder (token : String) : String := String.ofList (mark token.toList)

/-- Each token has a name, no two have the same one, and no value can be part of a placeholder. -/
structure Unambiguous (tokens : List (String × String)) : Prop where
  names : ∀ token ∈ tokens, IsName token.1.toList
  once : (tokens.map Prod.fst).Nodup
  values : ∀ token ∈ tokens, Solid token.2.toList

namespace Unambiguous

variable {tokens tokens' : List (String × String)}

theorem spelled_names (h : Unambiguous tokens) : ∀ token ∈ spelled tokens, IsName token.1 := by
  intro token htoken
  obtain ⟨found, hfound, rfl⟩ := List.mem_map.mp htoken
  exact h.names found hfound

theorem spelled_values (h : Unambiguous tokens) : SolidValues (spelled tokens) := by
  intro token htoken
  obtain ⟨found, hfound, rfl⟩ := List.mem_map.mp htoken
  exact h.values found hfound

theorem spelled_once (h : Unambiguous tokens) : ((spelled tokens).map Prod.fst).Nodup := by
  have hfst : (spelled tokens).map Prod.fst = (tokens.map Prod.fst).map String.toList := by
    simp [spelled]
  rw [hfst]
  exact h.once.map fun _ _ heq => String.toList_inj.mp heq

theorem perm (h : Unambiguous tokens) (hperm : tokens'.Perm tokens) : Unambiguous tokens' := by
  refine ⟨?_, (hperm.map Prod.fst).nodup_iff.mpr h.once, ?_⟩
  · intro token htoken
    exact h.names token (hperm.mem_iff.mp htoken)
  · intro token htoken
    exact h.values token (hperm.mem_iff.mp htoken)

theorem substitute_perm (h : Unambiguous tokens) (hperm : tokens'.Perm tokens) (text : String) :
    substitute text tokens' = substitute text tokens := by
  have hlookup : ∀ name, (spelled tokens').lookup name = (spelled tokens).lookup name := by
    intro name
    ext value
    rw [lookup_eq_some_iff_mem (h.perm hperm).spelled_once, lookup_eq_some_iff_mem h.spelled_once]
    exact (hperm.map _).mem_iff
  rw [substitute, substitute, substituteText_congr hlookup]

end Unambiguous

theorem placeholder_mem_iff {tokens : List (String × String)} {item : String} :
    item ∈ tokens.map (fun token => placeholder token.1) ↔
      item.toList ∈ (spelled tokens).map fun token => mark token.1 := by
  rw [List.mem_map, spelled, List.map_map, List.mem_map]
  constructor
  · rintro ⟨token, htoken, rfl⟩
    exact ⟨token, htoken, (String.toList_ofList).symm⟩
  · rintro ⟨token, htoken, hmark⟩
    exact ⟨token, htoken, by rw [← @String.ofList_toList item, ← hmark]; rfl⟩

theorem leftovers_substitute {text : String} {tokens : List (String × String)}
    (htext : Separate text.toList) (htokens : Unambiguous tokens) :
    leftovers (substitute text tokens) =
      (leftovers text).filter (· ∉ tokens.map fun token => placeholder token.1) := by
  refine leftovers_eq ((leftovers_pairwise text).filter _) ?_
  intro item
  rw [substitute, String.toList_ofList, occurrences_substituteText htext htokens.spelled_values,
    List.mem_filter, List.mem_filter, mem_leftovers, decide_eq_true_eq, decide_eq_true_eq,
    placeholder_mem_iff]

/-- The last token is filled in the text that the others leave. -/
theorem fill_concat (text : String) (tokens : List (String × String)) (token : String × String) :
    fill text (tokens ++ [token]) = String.ofList
      (Text.replaceAll (mark token.1.toList) token.2.toList (fill text tokens).toList) := by
  simp [fill, fillText]

theorem fill_eq {text : String} {tokens : List (String × String)}
    (htext : Separate text.toList) (htokens : Unambiguous tokens) :
    fill text tokens = substitute text tokens := by
  have hfill : fill text tokens = String.ofList (fillText text.toList (spelled tokens)) := rfl
  rw [hfill, substitute, fillText_eq htext htokens.spelled_names htokens.spelled_values]

/-- Filling is one simultaneous substitution: no value brings a placeholder, and none hides one. So
the order of the tokens does not matter, no listed placeholder is left, and all others are. -/
theorem fill_simultaneous {text : String} {tokens : List (String × String)}
    (htext : Separate text.toList) (htokens : Unambiguous tokens) :
    fill text tokens = substitute text tokens ∧
    (∀ tokens', tokens'.Perm tokens → fill text tokens' = fill text tokens) ∧
    (∀ token ∈ tokens, ¬ (placeholder token.1).toList <:+: (fill text tokens).toList) ∧
    leftovers (fill text tokens) =
      (leftovers text).filter (· ∉ tokens.map fun token => placeholder token.1) := by
  have hfill := fill_eq htext htokens
  refine ⟨hfill, ?_, ?_, ?_⟩
  · intro tokens' hperm
    rw [hfill, fill_eq htext (htokens.perm hperm), htokens.substitute_perm hperm]
  · intro token htoken
    have hmem : (token.1.toList, token.2.toList) ∈ spelled tokens := List.mem_map_of_mem htoken
    have hlookup := (lookup_eq_some_iff_mem htokens.spelled_once).mpr hmem
    rw [hfill, substitute, placeholder, String.toList_ofList, String.toList_ofList]
    exact not_mark_infix htokens.spelled_values (htokens.names token htoken) hlookup _
  · rw [hfill, leftovers_substitute htext htokens]

theorem fill_simultaneous_two_of_three :
    Separate "%%A%%:%%B-1%%%%%C%%".toList ∧ Unambiguous [("B-1", "a/b"), ("A", "{}")] ∧
    [("A", "{}"), ("B-1", "a/b")].Perm [("B-1", "a/b"), ("A", "{}")] ∧
    fill "%%A%%:%%B-1%%%%%C%%" [("B-1", "a/b"), ("A", "{}")] = "{}:a/b%%%C%%" ∧
    fill "%%A%%:%%B-1%%%%%C%%" [("A", "{}"), ("B-1", "a/b")] = "{}:a/b%%%C%%" ∧
    leftovers "{}:a/b%%%C%%" =
      (leftovers "%%A%%:%%B-1%%%%%C%%").filter (· ∉ ["%%B-1%%", "%%A%%"]) := by
  have htext : Separate "%%A%%:%%B-1%%%%%C%%".toList := by decide +kernel
  have htokens : Unambiguous [("B-1", "a/b"), ("A", "{}")] := by
    constructor <;> decide
  have hperm : [("A", "{}"), ("B-1", "a/b")].Perm [("B-1", "a/b"), ("A", "{}")] :=
    List.Perm.swap _ _ _
  have hfill : fill "%%A%%:%%B-1%%%%%C%%" [("B-1", "a/b"), ("A", "{}")] = "{}:a/b%%%C%%" := by
    decide +kernel
  obtain ⟨_, horder, _, hleft⟩ := fill_simultaneous htext htokens
  have hback := horder _ hperm
  have hlisted : ([("B-1", "a/b"), ("A", "{}")].map fun token => placeholder token.1) =
      ["%%B-1%%", "%%A%%"] := by decide +kernel
  rw [hfill] at hback hleft
  rw [hlisted] at hleft
  exact ⟨htext, htokens, hperm, hfill, hback, hleft⟩

end ReleaseStamp.Placeholder
