/-!
# Lines

A line is what ends with a line feed, which it keeps; the last one may lack it.
-/
namespace ReleaseStamp.Text

def lines : List Char → List (List Char)
  | [] => []
  | c :: rest =>
    if c = '\n' then [c] :: lines rest
    else match lines rest with
      | [] => [[c]]
      | line :: others => (c :: line) :: others

theorem flatten_lines (text : List Char) : (lines text).flatten = text := by
  induction text with
  | nil => rfl
  | cons c rest ih =>
    unfold lines
    split
    · simp [ih]
    · split <;> rename_i h <;> rw [h] at ih <;> simp_all

end ReleaseStamp.Text
