import Mathlib.Data.List.Basic
import Mathlib.Data.List.TakeWhile
import ReleaseStamp.Proofs.Text.Run
import ReleaseStamp.Text.Space

/-!
# Trimming

What trimming leaves of a text is the part that neither starts nor ends with a character of the
class, so that it is the same for every text that differs in such characters around it.
-/
namespace ReleaseStamp.Text

variable {p : Char → Bool} {text inner before after : List Char}

structure Bare (p : Char → Bool) (text : List Char) : Prop where
  first : ∀ c ∈ text.head?, p c = false
  last : ∀ c ∈ text.getLast?, p c = false

theorem bare_nil (p : Char → Bool) : Bare p [] := ⟨nofun, nofun⟩

theorem head?_dropWhile (p : Char → Bool) (text : List Char) :
    ∀ c ∈ (text.dropWhile p).head?, p c = false := by
  intro c hc
  have hnot := List.head?_dropWhile_not p text
  rw [Option.mem_def.mp hc] at hnot
  exact hnot

theorem trimBy_padded (hbefore : ∀ c ∈ before, p c = true) (hafter : ∀ c ∈ after, p c = true)
    (hinner : Bare p inner) : trimBy p (before ++ inner ++ after) = inner := by
  by_cases hne : inner = []
  · subst hne
    have hnone : (before ++ [] ++ after).dropWhile p = [] := by
      rw [List.append_nil, List.dropWhile_eq_nil_iff]
      simpa [or_imp, forall_and] using ⟨hbefore, hafter⟩
    rw [trimBy, hnone]
    rfl
  · have hstart : ∀ c ∈ (inner ++ after).head?, p c = false := by
      rw [List.head?_append_of_ne_nil inner hne]
      exact hinner.first
    have hstop : ∀ c ∈ inner.reverse.head?, p c = false := by
      rw [List.head?_reverse]
      exact hinner.last
    have hback : ∀ c ∈ after.reverse, p c = true := fun c hc => hafter c (List.mem_reverse.mp hc)
    rw [trimBy, List.append_assoc, dropWhile_run hbefore hstart, List.reverse_append,
      dropWhile_run hback hstop, List.reverse_reverse]

/-- A text is what trimming leaves of it, with characters of the class around. -/
theorem exists_padded (p : Char → Bool) (text : List Char) : ∃ before after,
    text = before ++ trimBy p text ++ after ∧ (∀ c ∈ before, p c = true) ∧
      (∀ c ∈ after, p c = true) ∧ Bare p (trimBy p text) := by
  have hback := List.takeWhile_append_dropWhile (p := p) (l := (text.dropWhile p).reverse)
  have hrest : text.dropWhile p =
      trimBy p text ++ ((text.dropWhile p).reverse.takeWhile p).reverse := by
    rw [trimBy, ← List.reverse_append, hback, List.reverse_reverse]
  refine ⟨text.takeWhile p, ((text.dropWhile p).reverse.takeWhile p).reverse, ?_, ?_, ?_, ?_, ?_⟩
  · rw [List.append_assoc, ← hrest, List.takeWhile_append_dropWhile]
  · exact fun c hc => List.mem_takeWhile_imp hc
  · exact fun c hc => List.mem_takeWhile_imp (List.mem_reverse.mp hc)
  · intro c hc
    apply head?_dropWhile p text
    rw [hrest, List.head?_append_of_ne_nil]
    · exact hc
    · intro hnil
      rw [hnil] at hc
      cases hc
  · intro c hc
    rw [trimBy, List.getLast?_reverse] at hc
    exact head?_dropWhile p _ c hc

theorem trimBy_eq_iff : trimBy p text = inner ↔ ∃ before after,
    text = before ++ inner ++ after ∧ (∀ c ∈ before, p c = true) ∧ (∀ c ∈ after, p c = true) ∧
      Bare p inner := by
  constructor
  · rintro rfl
    exact exists_padded p text
  · rintro ⟨before, after, rfl, hbefore, hafter, hinner⟩
    exact trimBy_padded hbefore hafter hinner

theorem trimBy_append (hbefore : ∀ c ∈ before, p c = true) (hafter : ∀ c ∈ after, p c = true)
    (text : List Char) : trimBy p (before ++ text ++ after) = trimBy p text := by
  obtain ⟨first, last, htext, hfirst, hlast, hinner⟩ := exists_padded p text
  refine trimBy_eq_iff.mpr ⟨before ++ first, last ++ after, ?_, ?_, ?_, hinner⟩
  · have hwhole := congrArg (before ++ · ++ after) htext
    simpa only [List.append_assoc] using hwhole
  · exact List.forall_mem_append.mpr ⟨hbefore, hfirst⟩
  · exact List.forall_mem_append.mpr ⟨hlast, hafter⟩

theorem trimBy_eq_nil_iff : trimBy p text = [] ↔ ∀ c ∈ text, p c = true := by
  rw [trimBy_eq_iff]
  constructor
  · rintro ⟨before, after, rfl, hbefore, hafter, _⟩
    rw [List.append_nil]
    exact List.forall_mem_append.mpr ⟨hbefore, hafter⟩
  · intro h
    exact ⟨text, [], by simp, h, nofun, bare_nil p⟩

variable {c : Char} {stem : List Char}

/-- The text is the stem with a number of the same character behind it, and the stem does not end
with that character. -/
structure IsStem (c : Char) (text stem : List Char) : Prop where
  last : ∀ d ∈ stem.getLast?, d ≠ c
  whole : ∃ count, text = stem ++ List.replicate count c

theorem dropTrailing_eq_iff : dropTrailing c text = stem ↔ IsStem c text stem := by
  constructor
  · rintro rfl
    refine ⟨?_, (text.reverse.takeWhile (· == c)).length, ?_⟩
    · intro d hd
      rw [dropTrailing, List.getLast?_reverse] at hd
      simpa using head?_dropWhile (· == c) text.reverse d hd
    · have hsame : ∀ d ∈ text.reverse.takeWhile (· == c), d = c := by
        intro d hd
        simpa using List.mem_takeWhile_imp hd
      have hrun := List.eq_replicate_of_mem hsame
      have hwhole := List.takeWhile_append_dropWhile (p := (· == c)) (l := text.reverse)
      rw [← List.reverse_inj, dropTrailing, List.reverse_append, List.reverse_replicate,
        List.reverse_reverse, ← hrun, hwhole]
  · rintro ⟨hlast, count, rfl⟩
    have hrun : ∀ d ∈ List.replicate count c, (d == c) = true := by
      intro d hd
      rw [List.eq_of_mem_replicate hd, beq_self_eq_true]
    have hstop : ∀ d ∈ stem.reverse.head?, (d == c) = false := by
      intro d hd
      rw [List.head?_reverse] at hd
      simpa using hlast d hd
    rw [dropTrailing, List.reverse_append, List.reverse_replicate, dropWhile_run hrun hstop,
      List.reverse_reverse]

theorem dropTrailing_append_replicate (text : List Char) (c : Char) (count : Nat) :
    dropTrailing c (text ++ List.replicate count c) = dropTrailing c text := by
  obtain ⟨hlast, count', hwhole⟩ := dropTrailing_eq_iff.mp (rfl : dropTrailing c text = _)
  refine dropTrailing_eq_iff.mpr ⟨hlast, count' + count, ?_⟩
  rw [List.replicate_add, ← List.append_assoc, ← hwhole]

end ReleaseStamp.Text
