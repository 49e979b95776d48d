import ReleaseStamp.Project.Version
import ReleaseStamp.Proofs.Project.Route
import ReleaseStamp.Proofs.Template

/-!
# Setting versions

What the steps of setting the versions read, and what they save.
-/
namespace ReleaseStamp

open FileTree (Regular Saved SavedAll Place below under Enters IsRoute Holds)
open Job (OnTree effect_bind effect_pure effect_note effect_ofExcept effect_readText
  effect_writeText Answered)

variable {tree after : FileTree} {path : Path} {version : String}

namespace Manifest

instance onTree_meet (encounter : FileTree.Encounter) : OnTree (meet encounter) := by
  cases encounter with
  | ok manifest => exact inferInstanceAs (OnTree (Job.note _ _ _ >>= fun _ => pure manifest))
  | error stop => exact inferInstanceAs (OnTree (throw _ : Job Path))

theorem effect_meet_ok {manifest found : Path} :
    (meet (.ok manifest)).effect tree = (.ok found, after) ↔ found = manifest ∧ after = tree := by
  simp only [meet, effect_bind, effect_note, effect_pure]
  constructor
  · rintro ⟨_, _, rfl, rfl, rfl⟩
    exact ⟨rfl, rfl⟩
  · rintro ⟨rfl, rfl⟩
    exact ⟨(), after, rfl, rfl, rfl⟩

def walkError (stop : Path × FileTree.Fault) : Error :=
  .walk ("IO error for operation on " ++ stop.1.shown ++ ": " ++ stop.2.message)

theorem effect_meet_error {stop : Path × FileTree.Fault} :
    (meet (.error stop)).effect tree = (.error (walkError stop), tree) := rfl

theorem effect_mapM_meet {encounters : List FileTree.Encounter} {paths : List Path} :
    (encounters.mapM meet).effect tree = (.ok paths, after) ↔
      encounters = paths.map .ok ∧ after = tree := by
  induction encounters generalizing tree after paths with
  | nil =>
    rw [List.mapM_nil, effect_pure, eq_comm (a := []), List.map_eq_nil_iff]
  | cons encounter encounters ih =>
    rw [List.mapM_cons, effect_bind]
    cases encounter with
    | error stop =>
      simp only [effect_meet_error, Prod.mk.injEq, reduceCtorEq, false_and, exists_false, false_iff]
      cases paths <;> simp
    | ok manifest =>
      simp only [effect_meet_ok, effect_bind, effect_pure, ih]
      constructor
      · rintro ⟨_, _, ⟨rfl, rfl⟩, rest, _, ⟨rfl, rfl⟩, rfl, rfl⟩
        exact ⟨rfl, rfl⟩
      · rintro ⟨hpaths, rfl⟩
        obtain ⟨found, rest, rfl, hfound, hrest⟩ := List.map_eq_cons_iff.mp hpaths.symm
        cases hfound
        exact ⟨_, after, ⟨rfl, rfl⟩, rest, after, ⟨hrest.symm, rfl⟩, rfl, rfl⟩

theorem find_eq (path : Path) : find path =
    (get >>= fun session => (session.tree.walk path).mapM meet) := rfl

instance (path : Path) : OnTree (find path) := by
  refine ⟨fun session => ?_⟩
  simp only [find_eq, Job.effect, Job.perform_get_bind]
  exact OnTree.perform_eq session

theorem effect_find {paths : List Path} : (find path).effect tree = (.ok paths, after) ↔
    tree.walk path = paths.map .ok ∧ after = tree := by
  rw [find_eq, Job.effect_get, effect_mapM_meet]

theorem stamp_eq (path : Path) (version : String) : stamp path version =
    (Job.readText path >>= fun contents =>
      if bump contents version = contents then
        Job.note .debug .manifest (path.shown ++ " is already up to date") >>= fun _ => pure false
      else Job.writeText path (bump contents version) >>= fun _ =>
        Job.note .debug .manifest ("Set version of " ++ path.shown ++ " to " ++ version) >>=
          fun _ =>
          pure true) := rfl

instance (path : Path) (version : String) : OnTree (stamp path version) := by
  rw [stamp_eq]
  infer_instance

/-- A manifest that is up to date is saved as it is: that changes nothing. -/
theorem effect_stamp (htree : Regular tree) {last : Path} (hends : Path.Ends path last)
    {changed : Bool} : (stamp path version).effect tree = (.ok changed, after) ↔
      ∃ contents, tree.readText path = .ok contents ∧
        changed = decide (bump contents version ≠ contents) ∧
        ∃ place, Saved tree path (bump contents version) place after := by
  rw [stamp_eq, effect_bind]
  simp only [effect_readText]
  constructor
  · rintro ⟨contents, between, ⟨htext, rfl⟩, hrest⟩
    refine ⟨contents, htext, ?_⟩
    split at hrest
    · rename_i hsame
      simp only [effect_bind, effect_note, effect_pure] at hrest
      obtain ⟨_, between, rfl, rfl, rfl⟩ := hrest
      rw [hsame]
      exact ⟨by simp, FileTree.saved_of_readText htree hends htext⟩
    · rename_i hdiffers
      simp only [effect_bind, effect_writeText htree, effect_note, effect_pure] at hrest
      obtain ⟨_, written, ⟨place, hsaved, _⟩, _, between, rfl, rfl, rfl⟩ := hrest
      exact ⟨by simp [hdiffers], place, hsaved⟩
  · rintro ⟨contents, htext, rfl, place, hsaved⟩
    refine ⟨contents, tree, ⟨htext, rfl⟩, ?_⟩
    split
    · rename_i hsame
      obtain ⟨place', hsaved'⟩ := FileTree.saved_of_readText htree hends htext
      rw [hsame] at hsaved
      obtain ⟨rfl, rfl⟩ := hsaved.unique hsaved'
      simp only [effect_bind, effect_note, effect_pure]
      exact ⟨(), after, rfl, by simp [hsame], rfl⟩
    · rename_i hdiffers
      have hopen := hsaved.not_sealed htree hends htext hdiffers
      simp only [effect_bind, effect_writeText htree, effect_note, effect_pure]
      exact ⟨(), after, ⟨place, hsaved, hopen⟩, (), after, rfl, by simp [hdiffers], rfl⟩

end Manifest

namespace Project

variable {project : Project}

def stamped (version : String) (manifests : List (Place × String)) : List (Place × String) :=
  manifests.map fun manifest => (manifest.1, Manifest.bump manifest.2 version)

instance onTree_stampManifests (version : String) (paths : List Path) :
    OnTree (stampManifests version paths) := by
  induction paths with
  | nil => exact inferInstanceAs (OnTree (pure 0 : Job Nat))
  | cons path paths ih =>
    exact inferInstanceAs (OnTree (Manifest.stamp path version >>= fun changed =>
      stampManifests version paths >>= fun count => pure (changed.toNat + count)))

def outdated (version : String) (manifests : List (Place × String)) : Nat :=
  manifests.countP fun manifest => Manifest.bump manifest.2 version ≠ manifest.2

theorem outdated_cons (version : String) (manifest : Place × String)
    (manifests : List (Place × String)) : outdated version (manifest :: manifests) =
      (decide (Manifest.bump manifest.2 version ≠ manifest.2)).toNat +
        outdated version manifests := by
  rw [outdated, List.countP_cons]
  by_cases hsame : Manifest.bump manifest.2 version = manifest.2
  · simp [hsame, outdated]
  · simp [hsame, outdated, Nat.add_comm]

theorem effect_stampManifests (htree : Regular tree) {base : Place} (hbase : Enters tree path base)
    {places : List Place} (hroutes : ∀ place ∈ places, IsRoute place) (honce : places.Nodup)
    {changed : Nat} :
    (stampManifests version (places.map (below path))).effect tree = (.ok changed, after) ↔
      ∃ manifests, Answered (Holds tree path) places manifests ∧
        changed = outdated version manifests ∧
        ∃ saved, SavedAll tree (under path (stamped version manifests)) saved after := by
  induction places generalizing tree changed with
  | nil =>
    rw [List.map_nil, stampManifests, effect_pure]
    constructor
    · rintro ⟨rfl, rfl⟩
      exact ⟨[], Job.answered_nil.mpr rfl, rfl, [], .nil⟩
    · rintro ⟨manifests, hanswered, rfl, saved, hsaved⟩
      obtain rfl := Job.answered_nil.mp hanswered
      cases hsaved
      exact ⟨rfl, rfl⟩
  | cons place places ih =>
    have hplace := hroutes place List.mem_cons_self
    have hroutes' := fun other hother => hroutes other (List.mem_cons_of_mem place hother)
    obtain ⟨hnew, honce'⟩ := List.nodup_cons.mp honce
    -- What is saved in between is not read by the rest.
    have hother : ∀ {between : FileTree} {contents : String} {saved other : Place},
        Saved tree (below path place) contents saved between → other ∈ places → ∀ text : String,
        (Holds between path other text ↔ Holds tree path other text) := by
      intro between contents saved other hsaved hmem text
      refine hsaved.holds_other htree hbase hplace (hroutes' other hmem) ?_
      rintro rfl
      exact hnew hmem
    obtain ⟨_, hends⟩ := hplace.ends path
    rw [List.map_cons, stampManifests, effect_bind]
    constructor
    · rintro ⟨first, between, hfirst, hrest⟩
      obtain ⟨contents, htext, rfl, saved, hsaved⟩ := (Manifest.effect_stamp htree hends).mp hfirst
      simp only [effect_bind, effect_pure] at hrest
      obtain ⟨count, final, hstamped, rfl, rfl⟩ := hrest
      have hwrites := hsaved.writes htree
      obtain ⟨manifests, hanswered, rfl, saved', hall⟩ :=
        (ih hwrites.regular (hwrites.grown.enters hbase) hroutes' honce').mp hstamped
      have hbefore := hanswered.congr fun manifest hmanifest =>
        (hother hsaved (hanswered.mem hmanifest) manifest.2).mp
      exact ⟨(place, contents) :: manifests,
        Job.answered_cons.mpr ⟨contents, manifests, htext, hbefore, rfl⟩,
        (outdated_cons version (place, contents) manifests).symm, saved :: saved',
          .cons hsaved hall⟩
    · rintro ⟨_, hanswered, rfl, _, hall⟩
      obtain ⟨contents, manifests, htext, hrest, rfl⟩ := Job.answered_cons.mp hanswered
      cases hall with
      | @cons _ between _ _ _ saved _ saved' hsaved hall =>
        have hwrites := hsaved.writes htree
        have hafter := hrest.congr fun manifest hmanifest =>
          (hother hsaved (hrest.mem hmanifest) manifest.2).mpr
        have hstamped := (ih hwrites.regular (hwrites.grown.enters hbase) hroutes' honce').mpr
          ⟨manifests, hafter, rfl, saved', hall⟩
        refine ⟨_, between, (Manifest.effect_stamp htree hends).mpr
          ⟨contents, htext, rfl, saved, hsaved⟩, ?_⟩
        simp only [effect_bind, effect_pure]
        exact ⟨_, after, hstamped, outdated_cons version (place, contents) manifests, rfl⟩

theorem readVersion_eq (project : Project) : project.readVersion =
    (Job.readText project.layout.versionFile >>= fun contents =>
      MonadExcept.ofExcept (versionOf project.layout.versionFile contents) >>= fun version =>
        Job.note .debug .tree ("Project version: " ++ version) >>= fun _ => pure version) := rfl

instance (project : Project) : OnTree project.readVersion := by
  rw [readVersion_eq]
  infer_instance

theorem effect_readVersion : project.readVersion.effect tree = (.ok version, after) ↔
    ∃ contents, Holds tree project.layout.root Layout.versionRoute contents ∧
      versionOf project.layout.versionFile contents = .ok version ∧ after = tree := by
  rw [readVersion_eq]
  simp only [effect_bind, effect_readText, effect_ofExcept, effect_note, effect_pure]
  constructor
  · rintro ⟨contents, _, ⟨htext, rfl⟩, _, _, ⟨hversion, rfl⟩, _, _, rfl, rfl, rfl⟩
    exact ⟨contents, htext, hversion, rfl⟩
  · rintro ⟨contents, htext, hversion, rfl⟩
    exact ⟨contents, after, ⟨htext, rfl⟩, version, after, ⟨hversion, rfl⟩, (), after, rfl, rfl,
      rfl⟩

variable {result : Template}

instance (project : Project) (version : String) : OnTree (project.renderBuildScript version) :=
  inferInstanceAs (OnTree (Template.load _ >>= fun template => template.fill _ _))

theorem effect_renderBuildScript :
    (project.renderBuildScript version).effect tree = (.ok result, after) ↔
      ∃ text, Holds tree project.layout.root Layout.buildTemplateRoute text ∧
        result = ⟨"docker-build.sh", Placeholder.fill text (project.buildTokens version)⟩ ∧
        after = tree := Template.effect_render

instance (project : Project) (version : String) : OnTree (project.renderPipeline version) :=
  inferInstanceAs (OnTree (Template.load _ >>= fun template => template.fill _ _))

theorem effect_renderPipeline :
    (project.renderPipeline version).effect tree = (.ok result, after) ↔
      ∃ text, Holds tree project.layout.root Layout.pipelineTemplateRoute text ∧
        result = ⟨".drone.yml", Placeholder.fill text (project.pipelineTokens version)⟩ ∧
        after = tree := Template.effect_render

end Project

end ReleaseStamp
