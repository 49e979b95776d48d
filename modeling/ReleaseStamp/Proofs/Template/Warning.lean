import ReleaseStamp.Proofs.Placeholder.Leftover
import ReleaseStamp.Proofs.Template

/-!
# Warnings of templates

Filling a template warns of the placeholders that are left over, in one record. The record lists
placeholders of the filled text only, and it is missing only if the text holds none; a placeholder
that is not listed overlaps with one that is.
-/
namespace ReleaseStamp.Template

open Placeholder (IsName Separate leftovers mark)

def warnings (template : Template) : List Log.Record :=
  template.warning?.toList.map fun message => ⟨.warn, .template, message⟩

theorem perform_fill_warnings (template : Template) (name : String)
    (tokens : List (String × String)) (session : Session) :
    (template.fill name tokens).perform session = (.ok (template.filled name tokens),
      { session with log := session.log ++ (template.filled name tokens).warnings }) := by
  unfold fill warnings
  simp only
  split
  · rename_i message hmessage
    rw [hmessage]
    rfl
  · rename_i hnone
    rw [Option.eq_none_iff_forall_ne_some.mpr hnone]
    simp

theorem warnings_eq_nil {template : Template} (h : leftovers template.inner = []) :
    template.warnings = [] := by
  rw [warnings, warning?, h]
  rfl

theorem warnings_of_ne_nil {template : Template} (h : leftovers template.inner ≠ []) :
    template.warnings = [⟨.warn, .template, template.name ++
      " still contains unknown placeholders after rendering: " ++
        String.intercalate ", " (leftovers template.inner)⟩] := by
  unfold warnings warning?
  split
  · contradiction
  · rfl

/-- What is left over of a text, and that filling a template tells so, once and in full. -/
theorem fill_warns_of_leftovers :
    (∀ text : String,
      (leftovers text).Pairwise (· < ·) ∧
      (∀ item ∈ leftovers text, ∃ name, IsName name ∧ item.toList = mark name ∧
        mark name <:+: text.toList) ∧
      (leftovers text = [] ↔ ∀ name, IsName name → ¬ mark name <:+: text.toList) ∧
      (Separate text.toList → ∀ name, IsName name → mark name <:+: text.toList →
        String.ofList (mark name) ∈ leftovers text)) ∧
    ∀ (template : Template) (name : String) (tokens : List (String × String)) (session : Session),
      let text := Placeholder.fill template.inner tokens
      (template.fill name tokens).perform session = (.ok ⟨name, text⟩,
        { session with log := session.log ++ if leftovers text = [] then [] else
          [⟨.warn, .template, name ++ " still contains unknown placeholders after rendering: " ++
            String.intercalate ", " (leftovers text)⟩] }) := by
  constructor
  · intro text
    exact ⟨Placeholder.leftovers_pairwise text, fun _ => Placeholder.isName_of_mem_leftovers,
      Placeholder.leftovers_eq_nil_iff, fun hseparate _ => hseparate.mem_leftovers⟩
  · intro template name tokens session text
    rw [perform_fill_warnings, filled]
    split
    · rename_i hnone
      have hnone' : warnings ⟨name, text⟩ = [] := warnings_eq_nil hnone
      rw [hnone']
    · rename_i hsome
      have hsome' : warnings ⟨name, text⟩ = _ := warnings_of_ne_nil hsome
      rw [hsome']

def percentTemplate : Template := ⟨"percent.temp", "100%% %%C%%%%%B-1%%% %%A%%"⟩

theorem fill_warns_of_leftovers_percent :
    let text := "100%% x%%%B-1%%% %%A%%"
    (Separate text.toList ∧ IsName "B-1".toList ∧ mark "B-1".toList <:+: text.toList) ∧
    "%%B-1%%" ∈ leftovers text ∧
    (percentTemplate.fill "percent" [("C", "x")]).perform { tree := {} } = (.ok ⟨"percent", text⟩,
      { tree := {},
        log := [⟨.warn, .template,
          "percent still contains unknown placeholders after rendering: " ++
          String.intercalate ", " (leftovers text)⟩] }) := by
  intro text
  obtain ⟨hlist, hfill⟩ := fill_warns_of_leftovers
  have hseparate : Separate text.toList := by decide +kernel
  have hname : IsName "B-1".toList := by decide
  have hmark : mark "B-1".toList <:+: text.toList :=
    ⟨"100%% x%".toList, "% %%A%%".toList, by decide +kernel⟩
  have hlisted := (hlist text).2.2.2 hseparate _ hname hmark
  have hne : leftovers text ≠ [] := List.ne_nil_of_mem hlisted
  have htext : Placeholder.fill percentTemplate.inner [("C", "x")] = text := by decide +kernel
  have hwarned := hfill percentTemplate "percent" [("C", "x")] { tree := {} }
  simp only [htext, if_neg hne] at hwarned
  exact ⟨⟨hseparate, hname, hmark⟩, hlisted, hwarned⟩

end ReleaseStamp.Template
