import ReleaseStamp.Proofs.Project.Version

/-!
# Failures of setting versions

Which step fails with which error, and the tree that it leaves. A manifest that can be read and is
not up to date can be written unless it is sealed, and a template can always be filled.
-/
namespace ReleaseStamp

open FileTree (Regular SavedAll Place below under Enters IsRoute Holds)
open Job (effect_readText)

variable {tree after : FileTree} {path : Path} {version : String} {error : Error}

namespace Manifest

theorem effect_meet_ok_error {manifest : Path} :
    (meet (.ok manifest)).effect tree = (.error error, after) ↔ False := by
  simp only [meet, Job.effect_bind_pure_error, Job.effect_note_error]

theorem effect_mapM_meet_error {encounters : List FileTree.Encounter} :
    (encounters.mapM meet).effect tree = (.error error, after) ↔ ∃ (found : List Path) (stop : _)
      (rest : _), encounters = found.map .ok ++ .error stop :: rest ∧ error = walkError stop ∧
        after = tree := by
  induction encounters with
  | nil =>
    rw [List.mapM_nil]
    simp
  | cons encounter encounters ih =>
    rw [List.mapM_cons, Job.effect_bind_error]
    cases encounter with
    | error stop =>
      simp only [effect_meet_error, Prod.mk.injEq, reduceCtorEq, false_and, exists_false, or_false]
      constructor
      · rintro ⟨herror, rfl⟩
        cases herror
        exact ⟨[], stop, encounters, rfl, rfl, rfl⟩
      · rintro ⟨found, stop', rest, hsplit, rfl, rfl⟩
        cases found with
        | nil =>
          cases hsplit
          exact ⟨rfl, rfl⟩
        | cons first found => cases hsplit
    | ok manifest =>
      simp only [effect_meet_ok_error, effect_meet_ok, Job.effect_bind_pure_error, false_or]
      constructor
      · rintro ⟨_, _, ⟨rfl, rfl⟩, hrest⟩
        obtain ⟨found, stop, rest, rfl, rfl, rfl⟩ := ih.mp hrest
        exact ⟨_ :: found, stop, rest, rfl, rfl, rfl⟩
      · rintro ⟨found, stop, rest, hsplit, rfl, rfl⟩
        cases found with
        | nil => cases hsplit
        | cons first found =>
          cases hsplit
          exact ⟨_, after, ⟨rfl, rfl⟩, ih.mpr ⟨found, stop, rest, rfl, rfl, rfl⟩⟩

theorem effect_find_error : (find path).effect tree = (.error error, after) ↔
    ∃ (found : List Path) (stop : _) (rest : _),
      tree.walk path = found.map .ok ++ .error stop :: rest ∧ error = walkError stop ∧
      after = tree := by
  rw [find_eq, Job.effect_get, effect_mapM_meet_error]

/-- Why a manifest cannot be stamped: it cannot be read, or it is not up to date and sealed. -/
inductive Unstampable (tree : FileTree) (path : Path) (version : String) :
    FileTree.Fault → Prop where
  | unread {fault : FileTree.Fault} : tree.readText path = .error fault →
      Unstampable tree path version fault
  | sealed {place : Place} {contents : String} :
      tree.find .look path = .ok (place, .file contents.toUTF8) →
      bump contents version ≠ contents → place ∈ tree.sealed →
      Unstampable tree path version .denied

theorem unstampable_iff (htree : Regular tree) {folder : Place} {last : Path} {contents : String}
    (hleads : FileTree.Leads tree path folder last)
    (hfile : tree.root.contentAt (folder ++ [last]) = some (.file contents.toUTF8))
    {fault : FileTree.Fault} : Unstampable tree path version fault ↔
      bump contents version ≠ contents ∧ FileTree.Unwritable tree (folder ++ [last]) fault := by
  have hfind := hleads.find htree .look (FileTree.Node.contentAt_file.mp hfile)
  constructor
  · intro h
    cases h with
    | unread hfault => cases hfault.symm.trans (FileTree.readText_eq_ok.mpr ⟨_, hfind⟩)
    | @sealed place contents' hfind' hdiffers hsealed =>
      obtain rfl : contents' = contents := by
        have hread := FileTree.readText_eq_ok.mpr ⟨_, hfind'⟩
        exact Except.ok.inj (hread.symm.trans (FileTree.readText_eq_ok.mpr ⟨_, hfind⟩))
      cases hfind.symm.trans hfind'
      exact ⟨hdiffers, .sealed (by simp [hfile]) hsealed⟩
  · rintro ⟨hdiffers, hfault⟩
    cases hfault with
    | folder hfolder => cases hfile.symm.trans hfolder
    | sealed _ hsealed => exact .sealed hfind hdiffers hsealed

theorem unstampable_below_iff (htree : Regular tree) {base names : Place}
    (hbase : Enters tree path base) (hroute : IsRoute names) {fault : FileTree.Fault} :
    Unstampable tree (below path names) version fault ↔
      tree.readText (below path names) = .error fault ∨
      ∃ contents, tree.readText (below path names) = .ok contents ∧
        bump contents version ≠ contents ∧ base ++ names ∈ tree.sealed ∧ fault = .denied := by
  constructor
  · intro h
    cases h with
    | unread hfault => exact Or.inl hfault
    | @sealed place contents hfind hdiffers hsealed =>
      rw [FileTree.find_below htree hbase hroute hfind] at hsealed
      exact Or.inr ⟨contents, FileTree.readText_eq_ok.mpr ⟨place, hfind⟩, hdiffers, hsealed, rfl⟩
  · rintro (hfault | ⟨contents, hread, hdiffers, hsealed, rfl⟩)
    · exact .unread hfault
    · obtain ⟨place, hfind⟩ := FileTree.readText_eq_ok.mp hread
      rw [← FileTree.find_below htree hbase hroute hfind] at hsealed
      exact .sealed hfind hdiffers hsealed

theorem effect_stamp_error (htree : Regular tree) {last : Path} (hends : Path.Ends path last) :
    (stamp path version).effect tree = (.error error, after) ↔ ∃ fault,
      Unstampable tree path version fault ∧ error = Job.faultAt path fault ∧ after = tree := by
  rw [stamp_eq, Job.effect_bind_error, Job.effect_readText_error]
  simp only [effect_readText]
  cases hread : tree.readText path with
  | error fault =>
    constructor
    · rintro (⟨_, hfault, rfl, rfl⟩ | ⟨_, _, ⟨hok, _⟩, _⟩)
      · cases hfault
        exact ⟨fault, .unread hread, rfl, rfl⟩
      · cases hok
    · rintro ⟨fault', hfault, rfl, rfl⟩
      cases hfault with
      | unread hfault => exact Or.inl ⟨fault', hread.symm.trans hfault, rfl, rfl⟩
      | sealed hfind _ _ => cases hread.symm.trans (FileTree.readText_eq_ok.mpr ⟨_, hfind⟩)
  | ok contents =>
    obtain ⟨folder, hleads, hfile⟩ := (FileTree.readText_iff htree hends).mp hread
    simp only [unstampable_iff htree hleads hfile]
    constructor
    · rintro (⟨_, hfault, _⟩ | ⟨_, _, ⟨hok, rfl⟩, hrest⟩)
      · cases hfault
      cases hok
      split at hrest
      · simp only [Job.effect_bind_error, Job.effect_note_error, Job.effect_pure_error, and_false,
          exists_false, or_false] at hrest
      · rename_i hdiffers
        simp only [Job.effect_bind_error, Job.effect_writeText_error htree hleads,
          Job.effect_note_error, Job.effect_pure_error, and_false, exists_false, or_false] at hrest
        obtain ⟨fault, hfault, herror⟩ := hrest
        exact ⟨fault, ⟨hdiffers, hfault⟩, herror⟩
    · rintro ⟨fault, ⟨hdiffers, hfault⟩, herror⟩
      refine Or.inr ⟨contents, tree, ⟨rfl, rfl⟩, ?_⟩
      rw [if_neg hdiffers, Job.effect_bind_error, Job.effect_writeText_error htree hleads]
      exact Or.inl ⟨fault, hfault, herror⟩

end Manifest

namespace Project

variable {project : Project}

/-- Manifests are stamped up to the first one that cannot be. -/
theorem effect_stampManifests_error (htree : Regular tree) {base : Place}
    (hbase : Enters tree path base) {places : List Place}
    (hroutes : ∀ place ∈ places, IsRoute place) (honce : places.Nodup)
    (h : (stampManifests version (places.map (below path))).effect tree = (.error error, after)) :
    ∃ done place rest fault, places = done.map Prod.fst ++ place :: rest ∧
      (∀ manifest ∈ done, Holds tree path manifest.1 manifest.2) ∧
      Manifest.Unstampable tree (below path place) version fault ∧
      error = Job.faultAt (below path place) fault ∧
      ∃ saved, SavedAll tree (under path (stamped version done)) saved after := by
  induction places generalizing tree with
  | nil =>
    rw [List.map_nil, stampManifests, Job.effect_pure_error] at h
    cases h
  | cons place places ih =>
    have hplace := hroutes place List.mem_cons_self
    have hroutes' := fun other hother => hroutes other (List.mem_cons_of_mem place hother)
    obtain ⟨hnew, honce'⟩ := List.nodup_cons.mp honce
    obtain ⟨_, hends⟩ := hplace.ends path
    rw [List.map_cons, stampManifests, Job.effect_bind_error] at h
    rcases h with hfirst | ⟨changed, between, hfirst, hrest⟩
    · obtain ⟨fault, hfault, rfl, rfl⟩ := (Manifest.effect_stamp_error htree hends).mp hfirst
      exact ⟨[], place, places, fault, rfl, List.forall_mem_nil _, hfault, rfl, [], .nil⟩
    · obtain ⟨contents, htext, _, saved, hsaved⟩ := (Manifest.effect_stamp htree hends).mp hfirst
      rw [Job.effect_bind_pure_error] at hrest
      -- What has been written is not read by the rest, so that this meets what was there before.
      have hheld : Holds tree path place contents := htext
      obtain ⟨halike, hkept⟩ := hheld.over htree hbase hplace hsaved
      have hsame : ∀ other ∈ places,
          between.readText (below path other) = tree.readText (below path other) := by
        intro other hother
        refine halike.readText_below hbase (hroutes' other hother) (hkept _ ?_)
        intro hequal
        exact hnew (List.append_cancel_left hequal ▸ hother)
      obtain ⟨done, stop, rest, fault, rfl, hdone, hfault, rfl, saved', hall⟩ :=
        ih halike.right (halike.grown.enters hbase) hroutes' honce' hrest
      refine ⟨(place, contents) :: done, stop, rest, fault, rfl, ?_, ?_, rfl, saved :: saved',
        .cons hsaved hall⟩
      · rw [List.forall_mem_cons]
        refine ⟨htext, ?_⟩
        intro manifest hmanifest
        rw [Holds, ← hsame _ (List.mem_append_left _ (List.mem_map_of_mem hmanifest))]
        exact hdone manifest hmanifest
      · have hstop : stop ∈ done.map Prod.fst ++ stop :: rest :=
          List.mem_append_right _ List.mem_cons_self
        have hroute := hroutes' stop hstop
        rw [Manifest.unstampable_below_iff halike.right (halike.grown.enters hbase) hroute,
          hsame stop hstop, halike.grown.sealed] at hfault
        exact (Manifest.unstampable_below_iff htree hbase hroute).mpr hfault

theorem effect_readVersion_error : project.readVersion.effect tree = (.error error, after) ↔
    ((∃ fault, tree.readText project.layout.versionFile = .error fault ∧
        error = Job.faultAt project.layout.versionFile fault) ∨
      ∃ contents, tree.readText project.layout.versionFile = .ok contents ∧
        versionOf project.layout.versionFile contents = .error error) ∧ after = tree := by
  rw [readVersion_eq]
  simp only [Job.effect_bind_error, Job.effect_readText_error, Job.effect_ofExcept_error,
    Job.effect_note_error, Job.effect_pure_error, effect_readText, and_false, exists_false,
    or_false]
  constructor
  · rintro (⟨fault, hfault, rfl, rfl⟩ | ⟨contents, _, ⟨htext, rfl⟩, hversion, rfl⟩)
    · exact ⟨Or.inl ⟨fault, hfault, rfl⟩, rfl⟩
    · exact ⟨Or.inr ⟨contents, htext, hversion⟩, rfl⟩
  · rintro ⟨⟨fault, hfault, rfl⟩ | ⟨contents, htext, hversion⟩, rfl⟩
    · exact Or.inl ⟨fault, hfault, rfl, rfl⟩
    · exact Or.inr ⟨contents, after, ⟨htext, rfl⟩, hversion, rfl⟩

theorem effect_renderBuildScript_error :
    (project.renderBuildScript version).effect tree = (.error error, after) ↔ ∃ fault,
      tree.readText project.layout.buildTemplate = .error fault ∧
      error = Job.faultAt project.layout.buildTemplate fault ∧ after = tree :=
  Template.effect_render_error

theorem effect_renderPipeline_error :
    (project.renderPipeline version).effect tree = (.error error, after) ↔ ∃ fault,
      tree.readText project.layout.pipelineTemplate = .error fault ∧
      error = Job.faultAt project.layout.pipelineTemplate fault ∧ after = tree :=
  Template.effect_render_error

end Project

end ReleaseStamp
