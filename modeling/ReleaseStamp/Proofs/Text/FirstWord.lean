import ReleaseStamp.Proofs.Text.Trim

/-!
# The first word of a text

A word goes from white space, or from the start of the text, to the next white space or to the end
of the text.
-/
namespace ReleaseStamp.Text

variable {text word : List Char}

/-- Only white space stands before the word, and what follows it, if anything, is white space at
first. -/
structure IsFirstWord (text word : List Char) : Prop where
  ne_nil : word ≠ []
  solid : ∀ c ∈ word, isSpace c = false
  around : ∃ before after, text = before ++ word ++ after ∧ (∀ c ∈ before, isSpace c = true) ∧
    ∀ c ∈ after.head?, isSpace c = true

theorem IsFirstWord.firstWord_eq (h : IsFirstWord text word) : firstWord text = word := by
  obtain ⟨hne, hsolid, before, after, rfl, hbefore, hafter⟩ := h
  have hstart : ∀ c ∈ (word ++ after).head?, isSpace c = false := by
    rw [List.head?_append_of_ne_nil word hne]
    exact fun c hc => hsolid c (List.mem_of_mem_head? hc)
  have hrun : ∀ c ∈ word, (!isSpace c) = true := by simpa using hsolid
  have hstop : ∀ c ∈ after.head?, (!isSpace c) = false := by simpa using hafter
  rw [firstWord, List.append_assoc, dropWhile_run hbefore hstart, takeWhile_run hrun hstop]

theorem isFirstWord_firstWord (h : firstWord text ≠ []) : IsFirstWord text (firstWord text) := by
  refine ⟨h, ?_, text.takeWhile isSpace, (text.dropWhile isSpace).dropWhile (!isSpace ·),
    ?_, ?_, ?_⟩
  · intro c hc
    simpa using List.mem_takeWhile_imp hc
  · rw [firstWord, List.append_assoc, List.takeWhile_append_dropWhile,
      List.takeWhile_append_dropWhile]
  · exact fun c hc => List.mem_takeWhile_imp hc
  · intro c hc
    simpa using head?_dropWhile (!isSpace ·) (text.dropWhile isSpace) c hc

theorem firstWord_eq_iff (hne : word ≠ []) : firstWord text = word ↔ IsFirstWord text word := by
  constructor
  · rintro rfl
    exact isFirstWord_firstWord hne
  · exact IsFirstWord.firstWord_eq

end ReleaseStamp.Text
