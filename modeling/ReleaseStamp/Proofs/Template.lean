import ReleaseStamp.Proofs.Session.Failure
import ReleaseStamp.Template

/-!
# Jobs on templates

Reading, filling and writing a template, as far as the tree is concerned.
-/
namespace ReleaseStamp.Template

open FileTree (Regular Saved Leads Place)
open Job (OnTree effect_bind effect_pure effect_note effect_readText effect_writeText)

variable {tree after : FileTree} {template result : Template} {path : Path} {name : String}
  {tokens : List (String × String)}

instance (path : Path) : OnTree (load path) :=
  inferInstanceAs (OnTree (Job.readText path >>= fun _ => pure _))

theorem effect_load : (load path).effect tree = (.ok template, after) ↔
    ∃ text, tree.readText path = .ok text ∧ template = ⟨nameOf path, text⟩ ∧
      after = tree := by
  unfold load
  simp only [effect_bind, effect_readText, effect_pure]
  constructor
  · rintro ⟨text, between, ⟨htext, rfl⟩, rfl, rfl⟩
    exact ⟨text, htext, rfl, rfl⟩
  · rintro ⟨text, htext, rfl, rfl⟩
    exact ⟨text, _, ⟨htext, rfl⟩, rfl, rfl⟩

theorem perform_load (path : Path) (session : Session) :
    (load path).perform session =
      ((session.tree.readText path).mapError (Job.faultAt path) |>.map
        fun text => ⟨nameOf path, text⟩, session) := by
  unfold load
  rw [Job.perform_bind, Job.perform_readText]
  cases session.tree.readText path <;> rfl

theorem perform_fill (template : Template) (name : String) (tokens : List (String × String))
    (session : Session) : ∃ log, (template.fill name tokens).perform session =
      (.ok (template.filled name tokens), { session with log }) := by
  unfold fill
  simp only
  split
  · exact ⟨_, rfl⟩
  · exact ⟨session.log, rfl⟩

/-- All that filling does depends on the filled text. -/
theorem fill_congr {template : Template} {tokens tokens' : List (String × String)}
    (h : Placeholder.fill template.inner tokens = Placeholder.fill template.inner tokens')
    (name : String) : template.fill name tokens = template.fill name tokens' := by
  rw [fill, fill, filled, filled, h]

instance (template : Template) (name : String) (tokens : List (String × String)) :
    OnTree (template.fill name tokens) := by
  refine ⟨fun session => ?_⟩
  obtain ⟨log, hfill⟩ := template.perform_fill name tokens session
  obtain ⟨log', hfill'⟩ := template.perform_fill name tokens { tree := session.tree }
  rw [Job.effect, hfill, hfill']

theorem effect_fill : (template.fill name tokens).effect tree = (.ok result, after) ↔
    result = template.filled name tokens ∧ after = tree := by
  obtain ⟨log, hfill⟩ := template.perform_fill name tokens { tree }
  rw [Job.effect, hfill]
  simp [eq_comm]

/-- A template is read and filled, and the tree stays as it is. -/
theorem effect_render : (load path >>= fun template => template.fill name tokens).effect tree =
    (.ok result, after) ↔ ∃ text, tree.readText path = .ok text ∧
      result = ⟨name, Placeholder.fill text tokens⟩ ∧ after = tree := by
  simp only [effect_bind, effect_load, effect_fill]
  constructor
  · rintro ⟨_, between, ⟨text, htext, rfl, rfl⟩, rfl, rfl⟩
    exact ⟨text, htext, rfl, rfl⟩
  · rintro ⟨text, htext, rfl, rfl⟩
    exact ⟨_, _, ⟨text, htext, rfl, rfl⟩, rfl, rfl⟩

instance (template : Template) (path : Path) : OnTree (template.write path) :=
  inferInstanceAs (OnTree (Job.writeText path _ >>= fun _ => Job.note _ _ _))

theorem effect_write (htree : Regular tree) {value : Unit} :
    (template.write path).effect tree = (.ok value, after) ↔
      ∃ place, Saved tree path template.inner place after ∧ place ∉ tree.sealed := by
  unfold write
  simp only [effect_bind, effect_writeText htree, effect_note]
  constructor
  · rintro ⟨_, between, hsaved, rfl⟩
    exact hsaved
  · intro hsaved
    exact ⟨(), after, hsaved, rfl⟩

variable {error : Error}

theorem effect_load_error : (load path).effect tree = (.error error, after) ↔ ∃ fault,
    tree.readText path = .error fault ∧ error = Job.faultAt path fault ∧ after = tree := by
  unfold load
  rw [Job.effect_bind_pure_error, Job.effect_readText_error]

theorem effect_fill_error :
    (template.fill name tokens).effect tree = (.error error, after) ↔ False := by
  obtain ⟨log, hfill⟩ := template.perform_fill name tokens { tree }
  rw [Job.effect, hfill]
  simp

/-- Only reading a template can fail, not filling it. -/
theorem effect_render_error :
    (load path >>= fun template => template.fill name tokens).effect tree =
      (.error error, after) ↔ ∃ fault,
        tree.readText path = .error fault ∧ error = Job.faultAt path fault ∧ after = tree := by
  simp only [Job.effect_bind_error, effect_load_error, effect_fill_error, and_false, exists_false,
    or_false]

theorem effect_write_error (htree : Regular tree) {folder : Place} {last : Path}
    (hleads : Leads tree path folder last) :
    (template.write path).effect tree = (.error error, after) ↔ ∃ fault,
      FileTree.Unwritable tree (folder ++ [last]) fault ∧ error = Job.faultAt path fault ∧
      after = tree := by
  unfold write
  simp only [Job.effect_bind_error, Job.effect_writeText_error htree hleads, Job.effect_note_error,
    and_false, exists_false, or_false]

end ReleaseStamp.Template
