import ReleaseStamp.Proofs.Manifest.Nested.Members

/-!
# Path keys in nested tables

A line is taken for one with a path if any of its tables has a path, on whatever level, or if a
quoted text looks as if.
-/
namespace ReleaseStamp.Manifest.Nested

open Text (isBlank)

variable {tail : List Char} {mark : Char} {p q : Prop}

theorem mentions_append (keys keys' : List Key) (texts texts' : List (List Char)) :
    Mentions (keys ++ keys') (texts ++ texts') ↔
      Mentions keys texts ∨ Mentions keys' texts' := by
  simp only [Mentions, List.mem_append, or_and_right, exists_or]
  exact or_or_or_comm

theorem mentions_nil {texts : List (List Char)} :
    Mentions [] texts ↔ ∃ text ∈ texts, LooksLikePath text := by
  simp [Mentions]

theorem Head.finds {inTable : Bool} {head : Head} (h : head.Valid inTable) (htail : Finds tail p) :
    Finds (head.render ++ tail) ((∃ text ∈ head.bodies, LooksLikePath text) ∨ p) := by
  cases head with
  | item lead =>
    refine ((Finds.of_noMarks h.2.noMarks).append htail).congr ?_
    simp [Head.bodies]
  | entry lead key gap pad =>
    obtain ⟨-, hlead, hkey, hgap, hpad⟩ := h
    have hsign := (Finds.of_noMarks (noMarks_sign hgap hpad (c := '=') (by decide))).append htail
    have hall := (Finds.of_noMarks hlead.noMarks).append ((Key.finds hkey).append hsign)
    simp only [Head.render, List.append_assoc, List.cons_append] at hall ⊢
    refine hall.congr ?_
    simp [Head.bodies]

theorem Head.finds_item {head : Head} (h : head.Valid false) (htail : Finds tail p) :
    Finds (head.render ++ tail) (Mentions head.keys head.bodies ∨ p) := by
  cases head with
  | item lead =>
    refine (Head.finds h htail).congr ?_
    simp [Mentions, Head.keys]
  | entry => exact absurd h.1 (by decide)

/-- A member of a table, with what follows it. -/
theorem finds_entry {head : Head} (hhead : head.Valid true) (htail : Finds tail p)
    (hmark : opensKey mark = true) :
    Finds (mark :: (head.render ++ tail)) (Mentions head.keys head.bodies ∨ p) := by
  intro rest
  have hall := Head.finds hhead htail rest
  cases head with
  | item lead => exact absurd hhead.1 (by decide)
  | entry lead key gap pad =>
    obtain ⟨-, hlead, hkey, hgap, -⟩ := hhead
    have hkeys : Key.last (.bare pathKey) ∈ (Head.entry lead key gap pad).keys ↔
        key = .last (.bare pathKey) := by
      rw [Head.keys, List.mem_singleton, eq_comm]
    have hsplit : (splitKey? pathKey (key.render ++ (gap ++ '=' ::
        (pad ++ (tail ++ rest))))).isSome = true ↔ key = .last (.bare pathKey) :=
      splitKey?_key (by decide) hkey hgap _
    rw [List.cons_append, hasPathKey, Bool.or_eq_true, Bool.and_eq_true, hall, Mentions, hkeys,
      ← hsplit]
    simp only [Head.render, List.append_assoc, List.cons_append]
    rw [hlead.dropWhile_append (Key.head_not_blank hkey _)]
    simp [hmark, or_assoc]

theorem finds_comma {members : Members} (h : members.Valid false)
    (hfinds : Finds (members.render ++ [']']) p) : Finds (',' :: (members.render ++ [']'])) p := by
  intro rest
  obtain ⟨lead, after, hlead, htext, hstop, hnone⟩ :=
    splitKey?_items (show ∀ c ∈ pathKey, isBareKeyChar c = true by decide) h rest
  have hall := hfinds rest
  simp only [List.append_assoc, List.cons_append, List.nil_append] at hall ⊢
  rw [hasPathKey, htext, hlead.dropWhile_append hstop, hnone, ← htext, ← hall]
  simp

theorem finds_close {trail : List Char} (htrail : Blanks trail) {c : Char}
    (hclose : opensKey c = false) (hvalue : Finds tail p) :
    Finds (tail ++ (trail ++ [c])) p := by
  have hmarks : NoMarks (trail ++ [c]) := noMarks_append.mpr ⟨htrail.noMarks, by simp [hclose]⟩
  exact (hvalue.append (.of_noMarks hmarks)).congr (or_iff_left id)

theorem finds_more {trail rest : List Char} (htrail : Blanks trail) (hvalue : Finds tail p)
    (hrest : Finds (',' :: rest) q) : Finds (tail ++ (trail ++ ',' :: rest)) (p ∨ q) := by
  refine (hvalue.append ((Finds.of_noMarks htrail.noMarks).append hrest)).congr ?_
  rw [false_or]

mutual

/-- There is a path key in a value if a table in it has one or a quoted text looks as if. -/
theorem Value.finds : ∀ {value : Value}, value.Valid →
    Finds value.render (Mentions value.keys value.bodies)
  | .quoted text, _ => by
    refine text.finds.congr ?_
    simp [Mentions, Value.keys, Value.bodies]
  | .scalar word, h => by
    refine (Finds.of_noMarks (IsScalar.noMarks h)).congr ?_
    simp [Mentions, Value.keys, Value.bodies]
  | .array members, h => by
    have hopen : NoMarks ['['] := by decide
    refine ((Finds.of_noMarks hopen).append (Members.finds_array h)).congr ?_
    rw [false_or]
    rfl
  | .table members, h => Members.finds_table h (by decide)

theorem Members.finds_array : ∀ {members : Members}, members.Valid false →
    Finds (members.render ++ [']']) (Mentions members.keys members.bodies)
  | .done blanks, h => by
    have hclose : NoMarks (blanks ++ [']']) := noMarks_append.mpr ⟨h.noMarks, by decide⟩
    refine (Finds.of_noMarks hclose).congr ?_
    simp [Mentions, Members.keys, Members.bodies]
  | .last head value trail, ⟨hhead, hvalue, htrail⟩ => by
    have hvalue' := finds_close htrail (c := ']') (by decide) (Value.finds hvalue)
    have hall := Head.finds_item hhead hvalue'
    rw [← mentions_append] at hall
    simpa only [Members.render, Members.keys, Members.bodies, List.append_assoc] using hall
  | .more head value trail rest, ⟨hhead, hvalue, htrail, hrest⟩ => by
    have hcomma := finds_comma hrest (Members.finds_array hrest)
    have hall := Head.finds_item hhead (finds_more htrail (Value.finds hvalue) hcomma)
    rw [← mentions_append, ← mentions_append] at hall
    simpa only [Members.render, Members.keys, Members.bodies, List.append_assoc,
      List.cons_append] using hall

theorem Members.finds_table : ∀ {members : Members}, members.Valid true →
    ∀ {mark : Char}, opensKey mark = true →
      Finds (mark :: (members.render ++ ['\x7d'])) (Mentions members.keys members.bodies)
  | .done blanks, h, mark, _ => by
    intro rest
    have hclose : NoMarks (blanks ++ ['\x7d']) := noMarks_append.mpr ⟨h.noMarks, by decide⟩
    have hnone : splitKey? pathKey ('\x7d' :: rest) = none :=
      splitKey?_eq_none (a := []) List.not_mem_nil (by decide) (by decide) (by decide)
    have hall := hasPathKey_append hclose rest
    simp only [Members.render, List.append_assoc, List.cons_append, List.nil_append] at hall ⊢
    rw [hasPathKey, h.dropWhile_append (head_brace rest), hnone, hall]
    simp [Mentions, Members.keys, Members.bodies]
  | .last head value trail, ⟨hhead, hvalue, htrail⟩, mark, hmark => by
    have hvalue' := finds_close htrail (c := '\x7d') (by decide) (Value.finds hvalue)
    have hall := finds_entry hhead hvalue' hmark
    rw [← mentions_append] at hall
    simpa only [Members.render, Members.keys, Members.bodies, List.append_assoc] using hall
  | .more head value trail rest, ⟨hhead, hvalue, htrail, hrest⟩, mark, hmark => by
    have hcomma := Members.finds_table hrest (show opensKey ',' = true by decide)
    have hall := finds_entry hhead (finds_more htrail (Value.finds hvalue) hcomma) hmark
    rw [← mentions_append, ← mentions_append] at hall
    simpa only [Members.render, Members.keys, Members.bodies, List.append_assoc,
      List.cons_append] using hall

end

end ReleaseStamp.Manifest.Nested
