/-!
# Runs of a class

A run of characters of a class, or of other things that come one after the other, ends where
something of another kind follows or nothing does.
-/
namespace ReleaseStamp.Text

variable {α : Type} {p : α → Bool} {run rest : List α}

theorem takeWhile_run (hrun : ∀ x ∈ run, p x = true) (hstop : ∀ x ∈ rest.head?, p x = false) :
    (run ++ rest).takeWhile p = run := by
  rw [List.takeWhile_append_of_pos hrun]
  cases rest with
  | nil => simp
  | cons x rest => simp [hstop x rfl]

theorem dropWhile_run (hrun : ∀ x ∈ run, p x = true) (hstop : ∀ x ∈ rest.head?, p x = false) :
    (run ++ rest).dropWhile p = rest := by
  rw [List.dropWhile_append_of_pos hrun]
  cases rest with
  | nil => rfl
  | cons x rest => exact List.dropWhile_cons_of_neg (by simp [hstop x rfl])

end ReleaseStamp.Text
