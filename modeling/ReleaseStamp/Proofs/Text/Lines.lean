import Mathlib.Data.List.Basic
import ReleaseStamp.Text.Lines

/-! # The lines of a text

Which lists of lines are the lines of some text, that such a list is found again in the text that it
makes up, and what becomes of the lines when their endings get a carriage return. -/
namespace ReleaseStamp.Text

/-- Every line ends with its only line feed; the last one may lack it, but is not empty then. -/
inductive Lined : List (List Char) → Prop where
  | nil : Lined []
  | last {line} : line ≠ [] → '\n' ∉ line → Lined [line]
  | cons {body rest} : '\n' ∉ body → Lined rest → Lined ((body ++ ['\n']) :: rest)

theorem lines_append {body : List Char} (h : '\n' ∉ body) (rest : List Char) :
    lines (body ++ '\n' :: rest) = (body ++ ['\n']) :: lines rest := by
  induction body with
  | nil => simp [lines]
  | cons c body ih =>
    have hc : c ≠ '\n' := fun eq => h (eq ▸ List.mem_cons_self)
    have hbody : '\n' ∉ body := fun hm => h (List.mem_cons_of_mem _ hm)
    simp [lines, hc, ih hbody]

theorem lines_of_not_mem {line : List Char} (hne : line ≠ []) (h : '\n' ∉ line) :
    lines line = [line] := by
  induction line with
  | nil => exact absurd rfl hne
  | cons c line ih =>
    have hc : c ≠ '\n' := fun eq => h (eq ▸ List.mem_cons_self)
    have hline : '\n' ∉ line := fun hm => h (List.mem_cons_of_mem _ hm)
    cases line with
    | nil => simp [lines, hc]
    | cons d line => rw [lines, if_neg hc, ih (List.cons_ne_nil d line) hline]

/-- A text with no line feed but a last one is a single line. -/
theorem lines_of_dropLast {line : List Char} (hne : line ≠ []) (h : '\n' ∉ line.dropLast) :
    lines line = [line] := by
  obtain ⟨body, last, rfl⟩ := (List.eq_nil_or_concat' line).resolve_left hne
  rw [List.dropLast_concat] at h
  by_cases hlast : last = '\n'
  · rw [hlast, lines_append h]
    rfl
  · exact lines_of_not_mem (by simp) (by simp [h, Ne.symm hlast])

theorem lined_lines (text : List Char) : Lined (lines text) := by
  induction text with
  | nil => exact .nil
  | cons c rest ih =>
    by_cases hc : c = '\n'
    · subst c
      simpa [lines] using @Lined.cons [] _ (by simp) ih
    · rw [lines, if_neg hc]
      cases h : lines rest with
      | nil => exact .last (List.cons_ne_nil c []) (by simpa using Ne.symm hc)
      | cons line others =>
        rw [h] at ih
        cases ih with
        | last hne hline =>
          exact .last (List.cons_ne_nil c line) (by simpa using ⟨Ne.symm hc, hline⟩)
        | @cons body _ hbody hothers =>
          exact @Lined.cons (c :: body) _ (by simpa using ⟨Ne.symm hc, hbody⟩) hothers

theorem lines_flatten {ls : List (List Char)} (h : Lined ls) : lines ls.flatten = ls := by
  induction h with
  | nil => rfl
  | last hne hline => simpa using lines_of_not_mem hne hline
  | cons hbody _ ih =>
    rw [List.flatten_cons, List.append_assoc, List.singleton_append, lines_append hbody, ih]

def returned (text : List Char) : List Char :=
  text.flatMap fun c => if c = '\n' then ['\r', '\n'] else [c]

theorem returned_append (first second : List Char) :
    returned (first ++ second) = returned first ++ returned second := List.flatMap_append

theorem returned_flatten (ls : List (List Char)) :
    returned ls.flatten = (ls.map returned).flatten := by
  induction ls with
  | nil => rfl
  | cons line ls ih => rw [List.flatten_cons, returned_append, ih, List.map_cons, List.flatten_cons]

theorem returned_of_not_mem {text : List Char} (h : '\n' ∉ text) : returned text = text := by
  induction text with
  | nil => rfl
  | cons c text ih =>
    rw [List.mem_cons, not_or] at h
    have hsplit : returned (c :: text) = c :: returned text := by
      simp [returned, Ne.symm h.1]
    rw [hsplit, ih h.2]

theorem returned_ended {body : List Char} (h : '\n' ∉ body) :
    returned (body ++ ['\n']) = body ++ ['\r', '\n'] := by
  rw [returned_append, returned_of_not_mem h]
  rfl

theorem Lined.returned {ls : List (List Char)} (h : Lined ls) : Lined (ls.map returned) := by
  induction h with
  | nil => exact .nil
  | last hne hline =>
    rw [List.map_singleton, returned_of_not_mem hline]
    exact .last hne hline
  | @cons body rest hbody _ ih =>
    have hreturn : '\n' ∉ body ++ ['\r'] := by simp [hbody]
    rw [List.map_cons, returned_ended hbody]
    simpa using Lined.cons hreturn ih

theorem lines_returned (text : List Char) : lines (returned text) = (lines text).map returned := by
  have hlines := lines_flatten (lined_lines text).returned
  rwa [← returned_flatten, flatten_lines] at hlines

end ReleaseStamp.Text
