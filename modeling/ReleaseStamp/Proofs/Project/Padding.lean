import ReleaseStamp.Proofs.Project.Failure
import ReleaseStamp.Proofs.Project.History
import ReleaseStamp.Proofs.Session.Agree
import ReleaseStamp.Proofs.Text.Trim

/-!
# White space around the version

The version is what is left of the version file without the white space at both ends. So white
space there makes no difference to anything that is done with the version, nor to any error that
stops it.
-/
namespace ReleaseStamp

open FileTree (Regular Place Beside Enters IsRoute Holds below manifestName)
open Job (OnTree Agree agree_pure agree_throw agree_note agree_bind agree_mapM agree_readText
  agree_writeText)

variable {a b : FileTree} {path : Path} {version : String} {base names other : Place}

namespace Manifest

theorem agree_meet (h : Beside path base names a b) (encounter : FileTree.Encounter) :
    Agree path base names (meet encounter) a b := by
  cases encounter with
  | error stop => exact agree_throw h (walkError stop)
  | ok manifest =>
    refine agree_bind (agree_note h _ _ _) fun _ a' b' _ h' => ?_
    exact agree_pure h' manifest

theorem agree_find (h : Beside path base names a b) (root : Path) :
    Agree path base names (find root) a b := by
  obtain ⟨outcome, a', b', ha, hb, h'⟩ :=
    agree_mapM (fun encounter _ _ h => agree_meet h encounter) h (a.walk root)
  refine ⟨outcome, a', b', ?_, ?_, h'⟩
  · rw [find_eq, Job.effect_get]
    exact ha
  · rw [find_eq, Job.effect_get, ← h.alike.walk]
    exact hb

theorem agree_stamp (h : Beside path base names a b) (hroute : IsRoute other)
    (hother : other ≠ names) (version : String) :
    Agree path base names (stamp (below path other) version) a b := by
  rw [stamp_eq]
  refine agree_bind (agree_readText h hroute hother) fun contents a' b' _ h' => ?_
  split
  · refine agree_bind (agree_note h' _ _ _) fun _ a'' b'' _ h'' => ?_
    exact agree_pure h'' false
  · refine agree_bind (agree_writeText h' _ _) fun _ a'' b'' _ h'' => ?_
    refine agree_bind (agree_note h'' _ _ _) fun _ _ _ _ hlast => ?_
    exact agree_pure hlast true

end Manifest

namespace Template

theorem agree_render (h : Beside path base names a b) (hroute : IsRoute other)
    (hother : other ≠ names) (name : String) (tokens : List (String × String)) :
    Agree path base names
      (load (below path other) >>= fun template => template.fill name tokens) a b := by
  have hload : Agree path base names (load (below path other)) a b := by
    refine agree_bind (agree_readText h hroute hother) fun text a' b' _ h' => ?_
    exact agree_pure h' _
  refine agree_bind hload fun template a' b' _ h' => ?_
  exact ⟨.ok (template.filled name tokens), a', b', effect_fill.mpr ⟨rfl, rfl⟩,
    effect_fill.mpr ⟨rfl, rfl⟩, h'⟩

theorem agree_write (h : Beside path base names a b) (template : Template) (target : Path) :
    Agree path base names (template.write target) a b := by
  refine agree_bind (agree_writeText h _ _) fun _ a' b' _ h' => ?_
  exact agree_note h' _ _ _

end Template

namespace Project

variable {project : Project} {contents contents' : String}

theorem agree_stampManifests (h : Beside path base names a b) (version : String)
    {places : List Place} (hroutes : ∀ place ∈ places, IsRoute place ∧ place ≠ names) :
    Agree path base names (stampManifests version (places.map (below path))) a b := by
  induction places generalizing a b with
  | nil => exact agree_pure h 0
  | cons place places ih =>
    rw [List.forall_mem_cons] at hroutes
    rw [List.map_cons, stampManifests]
    refine agree_bind (Manifest.agree_stamp h hroutes.1.1 hroutes.1.2 version)
      fun changed a' b' _ h' => ?_
    refine agree_bind (ih h' hroutes.2) fun count a'' b'' _ h'' => ?_
    exact agree_pure h'' _

theorem versionOf_eq_ok_iff : versionOf path contents = .ok version ↔
    version ≠ "" ∧ Text.trim contents.toList = version.toList := by
  unfold versionOf
  split
  · rename_i hblank
    rw [hblank]
    simp only [reduceCtorEq, false_iff, not_and]
    intro hne hempty
    exact hne (String.toList_eq_nil_iff.mp hempty.symm)
  · rename_i hne
    rw [Except.ok.injEq, ← String.toList_inj, String.toList_ofList]
    refine (and_iff_right_of_imp ?_).symm
    rintro hversion rfl
    exact hne hversion

theorem versionOf_eq_error_iff : (∃ message, versionOf path contents = .error (.version message)) ↔
    Text.trim contents.toList = [] := by
  unfold versionOf
  split
  · rename_i hblank
    simp [hblank]
  · rename_i hne
    simpa using hne

theorem effect_readVersion_of_holds
    (h : Holds a project.layout.root Layout.versionRoute contents) :
    project.readVersion.effect a = (versionOf project.layout.versionFile contents, a) := by
  cases hversion : versionOf project.layout.versionFile contents with
  | ok version => exact effect_readVersion.mpr ⟨contents, h, hversion, rfl⟩
  | error error => exact effect_readVersion_error.mpr ⟨Or.inr ⟨contents, h, hversion⟩, rfl⟩

structure Pads (version text : List Char) : Prop where
  bare : Text.Bare Text.isSpace version
  around : ∃ before after, text = before ++ version ++ after ∧
    (∀ c ∈ before, Text.isSpace c = true) ∧ ∀ c ∈ after, Text.isSpace c = true

theorem trim_eq_iff {text inner : List Char} : Text.trim text = inner ↔ Pads inner text := by
  rw [Text.trim, Text.trimBy_eq_iff]
  constructor
  · rintro ⟨before, after, htext, hbefore, hafter, hbare⟩
    exact ⟨hbare, before, after, htext, hbefore, hafter⟩
  · rintro ⟨hbare, before, after, htext, hbefore, hafter⟩
    exact ⟨before, after, htext, hbefore, hafter, hbare⟩

theorem readVersion_eq_ok_iff {session : Session}
    (h : session.tree.readText project.layout.versionFile = .ok contents) :
    (∃ after, project.readVersion.perform session = (.ok version, after)) ↔
      version ≠ "" ∧ Pads version.toList contents.toList := by
  rw [Job.exists_perform_iff, effect_readVersion_of_holds h, versionOf_eq_ok_iff, trim_eq_iff]

theorem readVersion_eq_error_iff {session : Session}
    (h : session.tree.readText project.layout.versionFile = .ok contents) :
    (∃ message after, project.readVersion.perform session = (.error (.version message), after)) ↔
      ∀ c ∈ contents.toList, Text.isSpace c = true := by
  simp only [Job.exists_perform_iff, effect_readVersion_of_holds h, versionOf_eq_error_iff]
  exact Text.trimBy_eq_nil_iff

theorem agree_readVersion (h : Beside project.layout.root base Layout.versionRoute a b)
    (ha : Holds a project.layout.root Layout.versionRoute contents)
    (hb : Holds b project.layout.root Layout.versionRoute contents')
    (htrim : Text.trim contents.toList = Text.trim contents'.toList) :
    Agree project.layout.root base Layout.versionRoute project.readVersion a b := by
  refine ⟨_, a, b, effect_readVersion_of_holds ha, ?_, h⟩
  rw [effect_readVersion_of_holds hb, versionOf, versionOf, htrim]

/-- All that is done with the version depends on the version file by what is read for it. -/
theorem agree_updateVersions
    (hversion : Agree project.layout.root base Layout.versionRoute project.readVersion a b) :
    Agree project.layout.root base Layout.versionRoute project.updateVersions a b := by
  have hfixed := fun route hroute => (Layout.isSource_fixed route hroute).isRoute
  rw [updateVersions_eq]
  refine agree_bind hversion fun version a₁ b₁ _ h₁ => ?_
  refine agree_bind (agree_note h₁ _ _ _) fun _ a₂ b₂ _ h₂ => ?_
  refine agree_bind (Template.agree_render h₂ (hfixed Layout.buildTemplateRoute (by simp))
    (by decide) _ _) fun script a₃ b₃ _ h₃ => ?_
  refine agree_bind (Template.agree_render h₃ (hfixed Layout.pipelineTemplateRoute (by simp))
    (by decide) _ _) fun pipeline a₄ b₄ _ h₄ => ?_
  refine agree_bind (Manifest.agree_find h₄ _) fun paths a₅ b₅ hfind h₅ => ?_
  obtain ⟨hwalk, rfl⟩ := Manifest.effect_find.mp hfind
  obtain ⟨places, hfound, rfl⟩ := (FileTree.walk_eq_ok h₅.alike.left h₅.enters).mp hwalk
  have hroutes : ∀ place ∈ places, IsRoute place ∧ place ≠ Layout.versionRoute := by
    intro place hplace
    refine ⟨hfound.isRoute h₅.alike.left hplace, ?_⟩
    rintro rfl
    have hlast := ((hfound.mem_iff h₅.alike.left h₅.enters).mp hplace).2.1
    exact absurd hlast (by decide)
  refine agree_bind (agree_stampManifests h₅ version hroutes) fun changed a₆ b₆ _ h₆ => ?_
  refine agree_bind (agree_note h₆ _ _ _) fun _ a₇ b₇ _ h₇ => ?_
  refine agree_bind (Template.agree_write h₇ script _) fun _ a₈ b₈ _ h₈ => ?_
  refine agree_bind (Template.agree_write h₈ pipeline _) fun _ a₉ b₉ _ h₉ => ?_
  exact agree_pure h₉ version

/-- Two trees that are the same but for the version file, which holds a text in the first and the
text with more around it in the second. -/
structure Padded (project : Project) (contents before after : String) (place : Place)
    (plain padded : FileTree) : Prop where
  left : Regular plain
  right : Regular padded
  here : padded.here = plain.here
  sealed : padded.sealed = plain.sealed
  found : plain.find .look project.layout.versionFile = .ok (place, .file contents.toUTF8)
  changed : padded.root.contentAt place = some (.file (before ++ contents ++ after).toUTF8)
  same : ∀ other, other ≠ place → padded.root.contentAt other = plain.root.contentAt other

/-- The version is the text of the version file without the white space at its ends, and this makes
no difference to any result or to any other file. -/
theorem version_ignores_padding (project : Project) :
    (∀ (session : Session) (contents : String),
      session.tree.readText project.layout.versionFile = .ok contents →
      (∀ version, (∃ after, project.readVersion.perform session = (.ok version, after)) ↔
        version ≠ "" ∧ Pads version.toList contents.toList) ∧
      ((∃ message after,
          project.readVersion.perform session = (.error (.version message), after)) ↔
        ∀ c ∈ contents.toList, Text.isSpace c = true)) ∧
    ∀ (plain padded : Session) (contents before after : String) (place : Place),
      (∀ c ∈ before.toList, Text.isSpace c = true) → (∀ c ∈ after.toList, Text.isSpace c = true) →
      Padded project contents before after place plain.tree padded.tree →
      ∀ job ∈ [project.readVersion, project.updateVersions],
        (job.perform padded).1 = (job.perform plain).1 ∧
        ∀ other, other ≠ place → (job.perform padded).2.tree.root.contentAt other =
          (job.perform plain).2.tree.root.contentAt other := by
  constructor
  · intro session contents hread
    exact ⟨fun version => readVersion_eq_ok_iff hread, readVersion_eq_error_iff hread⟩
  · intro plain padded contents before after place hbefore hafter h
    obtain ⟨base, rfl, hbeside, hholds, hholds'⟩ := FileTree.beside_of_same h.left h.right h.here
      h.sealed Layout.isRoute_version h.found h.changed h.same
    have htrim : Text.trim contents.toList = Text.trim (before ++ contents ++ after).toList := by
      rw [String.toList_append, String.toList_append]
      exact (Text.trimBy_append hbefore hafter contents.toList).symm
    have hversion := agree_readVersion hbeside hholds hholds' htrim
    rw [List.forall_mem_cons, List.forall_mem_singleton]
    exact ⟨hversion.perform, (agree_updateVersions hversion).perform⟩

theorem padded_sample (before after : String) :
    Padded sample "2.0 rc\n" before after ["repo", "VERSION"] (sampleTree "2.0 rc\n")
      (sampleTree (before ++ "2.0 rc\n" ++ after)) := by
  have hread : (sampleTree "2.0 rc\n").readText sample.layout.versionFile = .ok "2.0 rc\n" := by
    decide +kernel
  have hbase : Enters (sampleTree "2.0 rc\n") sample.layout.root ["repo"] := by
    unfold Enters
    decide +kernel
  obtain ⟨place, hfind⟩ := FileTree.readText_eq_ok.mp hread
  obtain rfl : place = ["repo", "VERSION"] :=
    FileTree.find_below (regular_sampleTree _) hbase Layout.isRoute_version hfind
  have hfile : ∀ text,
      (sampleTree text).root.contentAt ((["repo"] : Place) ++ (["VERSION"] : Place)) =
      some (.file text.toUTF8) := by
    intro text
    have hne : (("VERSION" : Path) == "Cargo.toml") = false := by decide
    simp [sampleTree, FileTree.Node.contentAt, FileTree.Node.get?, List.lookup_cons, hne,
      FileTree.Node.content]
  have hfree : (sampleTree "2.0 rc\n").root.contentAt
      ((["repo"] : Place) ++ (["VERSION"] : Place)) ≠ some .folder := by
    rw [hfile]
    simp
  have hput : ∀ text, (sampleTree text).root = (sampleTree "2.0 rc\n").root.put
      (.file text.toUTF8) ((["repo"] : Place) ++ (["VERSION"] : Place)) := by
    intro text
    have hbehind : ¬ ("VERSION" : Path) < "Cargo.toml" := by decide
    have hne : ("VERSION" : Path) ≠ "Cargo.toml" := by decide
    simp only [sampleTree, FileTree.Node.put, FileTree.Node.putChild, List.cons_append,
      List.nil_append, List.lookup_cons_self, hne, hbehind, ↓reduceIte]
  refine ⟨regular_sampleTree _, regular_sampleTree _, rfl, rfl, hfind, hfile _,
    fun other hother => ?_⟩
  rw [hput]
  exact (FileTree.Node.contentAt_put (FileTree.isLeaf_file _)
    (hbase.isFolder (regular_sampleTree _)) hfree other).trans (if_neg hother)

/-- White space of several kinds around the version of the sample project. -/
theorem version_ignores_padding_sample :
    (∀ c ∈ "\u2003\u0085\n".toList, Text.isSpace c = true) ∧
    Padded sample "2.0 rc\n" "\u2003\u0085\n" "\u2003\u0085\n" ["repo", "VERSION"]
      (sampleTree "2.0 rc\n") (sampleTree ("\u2003\u0085\n" ++ "2.0 rc\n" ++ "\u2003\u0085\n")) ∧
    (∃ after, sample.readVersion.perform { tree := sampleTree "2.0 rc\n" } =
      (.ok "2.0 rc", after)) ∧
    (sample.updateVersions.perform
        { tree := sampleTree ("\u2003\u0085\n" ++ "2.0 rc\n" ++ "\u2003\u0085\n") }).1 =
      (sample.updateVersions.perform { tree := sampleTree "2.0 rc\n" }).1 := by
  have hspace : ∀ c ∈ "\u2003\u0085\n".toList, Text.isSpace c = true := by decide +kernel
  have hpadded := padded_sample "\u2003\u0085\n" "\u2003\u0085\n"
  obtain ⟨hreads, hsame⟩ := version_ignores_padding sample
  have hread := FileTree.readText_eq_ok.mpr ⟨_, hpadded.found⟩
  have hversion := ((hreads { tree := sampleTree "2.0 rc\n" } _ hread).1 "2.0 rc").mpr
    ⟨by decide, ⟨by decide +kernel, by decide +kernel⟩, [], ['\n'], rfl, by decide, by decide⟩
  have hruns := hsame { tree := sampleTree "2.0 rc\n" } { tree := sampleTree _ } _ _ _ _ hspace
    hspace hpadded sample.updateVersions (by simp)
  exact ⟨hspace, hpadded, hversion, hruns.1⟩

end Project

end ReleaseStamp
