import ReleaseStamp.Proofs.Placeholder.Substitution

/-!
# Texts with replaced placeholders

What a substitution gives, without the pass that finds it: the placeholders whose names have a value
are replaced, and all between them is kept. For the names of a list of tokens, the value is that of
the first token.
-/
namespace ReleaseStamp.Placeholder

/-- The second text is the first one with placeholders replaced, from left to right. A character is
kept only if no placeholder with a value starts at it. -/
inductive Replaced (value? : List Char → Option (List Char)) : List Char → List Char → Prop where
  | nil : Replaced value? [] []
  | keep {c text result} :
      (∀ name after, IsName name → c :: text = mark name ++ after → value? name = none) →
      Replaced value? text result → Replaced value? (c :: text) (c :: result)
  | replace {name value text result} : IsName name → value? name = some value →
      Replaced value? text result → Replaced value? (mark name ++ text) (value ++ result)

variable {tokens : List (List Char × List Char)} {value? : List Char → Option (List Char)}
  {text result : List Char}

theorem Replaced.eq_substituteText (hvalue : ∀ name, tokens.lookup name = value? name)
    (h : Replaced value? text result) : result = substituteText tokens text := by
  induction h with
  | nil => exact (substituteText_nil tokens).symm
  | @keep c text result hnone _ ih =>
    have hkeep : expand? tokens (c :: text) = none := by
      cases hsplit : split? (c :: text) with
      | none => exact expand?_of_split?_none hsplit tokens
      | some found =>
        obtain ⟨hname, htext⟩ := split?_iff.mp hsplit
        rw [expand?_of_split? hsplit, hvalue, hnone _ _ hname htext, Option.map_none]
    rw [substituteText_keep hkeep, ih]
  | @replace name value text result hname hsome _ ih =>
    rw [← hvalue] at hsome
    have hexpand := expand?_iff.mpr ⟨name, split?_mark hname text, hsome⟩
    rw [substituteText_expand hexpand, ih]

theorem replaced_substituteText (hvalue : ∀ name, tokens.lookup name = value? name)
    (text : List Char) : Replaced value? text (substituteText tokens text) := by
  fun_induction substituteText tokens text with
  | case1 => exact .nil
  | case2 c rest value after hexpand ih =>
    obtain ⟨name, hsplit, hlookup⟩ := expand?_iff.mp hexpand
    obtain ⟨hname, htext⟩ := split?_iff.mp hsplit
    rw [hvalue] at hlookup
    rw [htext]
    exact .replace hname hlookup ih
  | case3 c rest hexpand ih =>
    refine .keep (fun name after hname htext => ?_) ih
    rw [htext, expand?_of_split? (split?_mark hname after), Option.map_eq_none_iff,
      hvalue] at hexpand
    exact hexpand

/-- A substitution gives the text with the placeholders of its tokens replaced, and no other. -/
theorem replaced_iff (hvalue : ∀ name, tokens.lookup name = value? name) :
    Replaced value? text result ↔ result = substituteText tokens text := by
  constructor
  · exact Replaced.eq_substituteText hvalue
  · rintro rfl
    exact replaced_substituteText hvalue text

/-- Of items that have a token in common, the first one gives the value. -/
theorem lookup_spelled_map {α : Type} (token value : α → String) (items : List α)
    (name : List Char) :
    (spelled (items.map fun item => (token item, value item))).lookup name =
      (items.find? fun item => (token item).toList = name).map fun item => (value item).toList := by
  induction items with
  | nil => rfl
  | cons item items ih =>
    rw [List.map_cons, spelled, List.map_cons, List.lookup_cons, List.find?_cons]
    by_cases hname : name = (token item).toList
    · simp [hname]
    · simp only [beq_eq_false_iff_ne.mpr hname, decide_eq_false (Ne.symm hname)]
      exact ih

end ReleaseStamp.Placeholder
