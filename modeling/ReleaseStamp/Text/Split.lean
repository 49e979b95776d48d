/-!
# Parts of a text

A text is split at the characters of a class, and parts are joined by one character.
-/
namespace ReleaseStamp.Text

def splitBy (p : Char → Bool) : List Char → List (List Char)
  | [] => [[]]
  | c :: rest =>
    if p c then [] :: splitBy p rest
    else match splitBy p rest with
      | [] => [[c]]
      | part :: others => (c :: part) :: others

def joinBy (mark : Char) : List (List Char) → List Char
  | [] => []
  | [part] => part
  | part :: others => part ++ mark :: joinBy mark others

def splitFirst (p : Char → Bool) (text : List Char) : List Char × Option (List Char) :=
  match text.dropWhile (!p ·) with
  | [] => (text, none)
  | _ :: rest => (text.takeWhile (!p ·), some rest)

theorem joinBy_cons (mark : Char) (part : List Char) (others : List (List Char)) :
    joinBy mark (part :: others) = part ++ others.flatMap (mark :: ·) := by
  induction others generalizing part with
  | nil => simp [joinBy]
  | cons next others ih => simp [joinBy, ih]

theorem mem_joinBy {mark c : Char} {parts : List (List Char)} (h : c ∈ joinBy mark parts) :
    c = mark ∨ ∃ part ∈ parts, c ∈ part := by
  cases parts with
  | nil => exact absurd h List.not_mem_nil
  | cons part others =>
    rw [joinBy_cons, List.mem_append, List.mem_flatMap] at h
    rcases h with hpart | ⟨other, hother, hc⟩
    · exact Or.inr ⟨part, List.mem_cons_self, hpart⟩
    · exact (List.mem_cons.mp hc).imp id fun hmem =>
        ⟨other, List.mem_cons_of_mem part hother, hmem⟩

end ReleaseStamp.Text
