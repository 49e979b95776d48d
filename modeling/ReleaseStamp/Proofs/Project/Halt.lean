import ReleaseStamp.Proofs.Project.Failure
import ReleaseStamp.Proofs.Project.Update

/-!
# Setting the versions halfway

What is left behind when setting the versions fails. Nothing has been written if an input other than
a manifest is at fault. After that, what has been written is known from where it has stopped.
-/
namespace ReleaseStamp.Project

open FileTree (Regular SavedAll Place below under Enters IsRoute Holds Found Ready Overwrites
  Unwritable)
open Layout (IsOutput)
open Job (effect_bind_error effect_bind_pure_error effect_note effect_note_error)

variable {project : Project} {tree before after : FileTree} {base : Place}
  {version : String} {error : Error} {done others : List (Place × String)}

/-- The walk of a project finds the manifests at these places below its root, in this order. -/
structure Finds (project : Project) (tree : FileTree) (places : List Place) : Prop where
  found : Found tree project.layout.root places
  paths : (Manifest.find project.layout.root).effect tree =
    (.ok (places.map (below project.layout.root)), tree)

/-- Why setting the versions stops before anything is written. -/
inductive StopsEarly (project : Project) (tree : FileTree) : Error → Prop where
  | versionFile {fault : FileTree.Fault} :
      tree.readText project.layout.versionFile = .error fault →
      StopsEarly project tree (Job.faultAt project.layout.versionFile fault)
  | blank {contents : String} :
      tree.readText project.layout.versionFile = .ok contents →
      Text.trim contents.toList = [] →
      StopsEarly project tree (.version (project.layout.versionFile.shown ++ " is empty"))
  | buildTemplate {fault : FileTree.Fault} :
      tree.readText project.layout.buildTemplate = .error fault →
      StopsEarly project tree (Job.faultAt project.layout.buildTemplate fault)
  | pipelineTemplate {fault : FileTree.Fault} :
      tree.readText project.layout.pipelineTemplate = .error fault →
      StopsEarly project tree (Job.faultAt project.layout.pipelineTemplate fault)
  | walk {found : List Path} {path : Path} {fault : FileTree.Fault}
      {rest : List FileTree.Encounter} :
      tree.walk project.layout.root = found.map .ok ++ .error (path, fault) :: rest →
      StopsEarly project tree
        (.walk ("IO error for operation on " ++ path.shown ++ ": " ++ fault.message))

/-- Why setting a version stops after some manifests are done, and what else is written by then: a
manifest cannot be read or written, or an output cannot be written. -/
inductive StopsLate (project : Project) (tree : FileTree) (base : Place) (version : String) :
    List (Place × String) → List (Place × String) → Error → Prop where
  | manifest {done : List (Place × String)} {place : Place} {rest : List Place}
      {fault : FileTree.Fault} :
      Finds project tree (done.map Prod.fst ++ place :: rest) →
      (∀ manifest ∈ done, Holds tree project.layout.root manifest.1 manifest.2) →
      Manifest.Unstampable tree (below project.layout.root place) version fault →
      StopsLate project tree base version done []
        (Job.faultAt (below project.layout.root place) fault)
  | build {done : List (Place × String)} {fault : FileTree.Fault} :
      Finds project tree (done.map Prod.fst) →
      (∀ manifest ∈ done, Holds tree project.layout.root manifest.1 manifest.2) →
      Unwritable tree (base ++ Layout.buildRoute) fault →
      StopsLate project tree base version done [] (Job.faultAt project.layout.buildOutput fault)
  | pipeline {done : List (Place × String)} {script : Template} {fault : FileTree.Fault} :
      Finds project tree (done.map Prod.fst) →
      (∀ manifest ∈ done, Holds tree project.layout.root manifest.1 manifest.2) →
      (project.renderBuildScript version).effect tree = (.ok script, tree) →
      Unwritable tree (base ++ Layout.pipelineRoute) fault →
      StopsLate project tree base version done [(Layout.buildRoute, script.inner)]
        (Job.faultAt project.layout.pipelineOutput fault)

theorem StopsLate.found (h : StopsLate project tree base version done others error) :
    ∃ rest, Found tree project.layout.root (done.map Prod.fst ++ rest) := by
  cases h with
  | manifest hfinds _ _ => exact ⟨_, hfinds.found⟩
  | build hfinds _ _ => exact ⟨[], by simpa using hfinds.found⟩
  | pipeline hfinds _ _ _ => exact ⟨[], by simpa using hfinds.found⟩

theorem StopsLate.holds (h : StopsLate project tree base version done others error) :
    ∀ manifest ∈ done, Holds tree project.layout.root manifest.1 manifest.2 := by
  cases h with
  | manifest _ hholds _ => exact hholds
  | build _ hholds _ => exact hholds
  | pipeline _ hholds _ _ => exact hholds

/-- Besides manifests only the build script is written, and only once. -/
theorem StopsLate.others_eq (h : StopsLate project tree base version done others error) :
    others = [] ∨ ∃ text, others = [(Layout.buildRoute, text)] := by
  cases h with
  | manifest => exact Or.inl rfl
  | build => exact Or.inl rfl
  | pipeline => exact Or.inr ⟨_, rfl⟩

theorem StopsLate.only_build (h : StopsLate project tree base version done others error) :
    ∀ write ∈ others, write.1 = Layout.buildRoute := by
  intro write hwrite
  rcases h.others_eq with rfl | ⟨text, rfl⟩
  · cases hwrite
  · rw [List.mem_singleton.mp hwrite]

theorem StopsLate.once (h : StopsLate project tree base version done others error) :
    (others.map Prod.fst).Nodup := by
  rcases h.others_eq with rfl | ⟨text, rfl⟩
  · exact List.nodup_nil
  · simp

theorem StopsLate.isOutput (h : StopsLate project tree base version done others error) :
    ∀ write ∈ others, IsOutput write.1 := by
  intro write hwrite
  rw [h.only_build write hwrite]
  exact Layout.isOutput_fixed _ (by simp)

/-- The files that have been written before the stop hold what has been written. -/
theorem StopsLate.holds_written (h : StopsLate project before base version done others error)
    (hbefore : Regular before) (hbase : Enters before project.layout.root base)
    {saved : List Place}
    (hsaved : SavedAll before (under project.layout.root (stamped version done ++ others)) saved
      after) :
    ∀ write ∈ stamped version done ++ others, Holds after project.layout.root write.1 write.2 := by
  obtain ⟨rest, hfound⟩ := h.found
  have hroutes : ∀ write ∈ stamped version done ++ others, IsRoute write.1 := by
    intro write hwrite
    rcases List.mem_append.mp hwrite with hwrite | hwrite
    · obtain ⟨manifest, hmanifest, rfl⟩ := List.mem_map.mp hwrite
      have hplace := List.mem_append_left rest (List.mem_map_of_mem (f := Prod.fst) hmanifest)
      exact hfound.isRoute hbefore hplace
    · exact (h.isOutput write hwrite).isRoute
  intro write hwrite
  exact hsaved.holds_written hbefore hbase hroutes
    (nodup_done hbefore hbase hfound h.isOutput h.once version) hwrite

theorem versionOf_eq_error {path : Path} {contents : String}
    (h : versionOf path contents = .error error) :
    Text.trim contents.toList = [] ∧ error = .version (path.shown ++ " is empty") := by
  unfold versionOf at h
  split at h
  · rename_i hblank
    cases h
    exact ⟨hblank, rfl⟩
  · cases h

/-- The places that have changed are those of the manifests that were not up to date, and those of
other files that have held something else. -/
theorem changed_stamped (hbefore : Regular before) (hbase : Enters before project.layout.root base)
    (hroutes : ∀ manifest ∈ done, IsRoute manifest.1)
    (hholds : ∀ manifest ∈ done, Holds before project.layout.root manifest.1 manifest.2)
    (h : Overwrites before base (stamped version done ++ others) after) (place : Place) :
    after.root.contentAt place ≠ before.root.contentAt place ↔
      (∃ manifest ∈ done, place = base ++ manifest.1 ∧
        Manifest.bump manifest.2 version ≠ manifest.2) ∨
      ∃ write ∈ others, place = base ++ write.1 ∧
        before.root.contentAt place ≠ some (.file write.2.toUTF8) := by
  have hmanifest : ∀ manifest ∈ done,
      before.root.contentAt (base ++ manifest.1) ≠
          some (.file (Manifest.bump manifest.2 version).toUTF8) ↔
        Manifest.bump manifest.2 version ≠ manifest.2 := by
    intro manifest hmem
    obtain ⟨_, _, hfile⟩ := (FileTree.readText_below_iff hbefore hbase
      (hroutes manifest hmem)).mp (hholds manifest hmem)
    rw [hfile, Ne, Option.some.injEq, FileTree.Content.file_toUTF8_inj, eq_comm]
  rw [h.changed_iff]
  constructor
  · rintro ⟨write, hwrite, rfl, hne⟩
    rcases List.mem_append.mp hwrite with hwrite | hwrite
    · obtain ⟨manifest, hmem, rfl⟩ := List.mem_map.mp hwrite
      exact Or.inl ⟨manifest, hmem, rfl, (hmanifest manifest hmem).mp hne⟩
    · exact Or.inr ⟨write, hwrite, rfl, hne⟩
  · rintro (⟨manifest, hmem, rfl, hne⟩ | ⟨write, hwrite, rfl, hne⟩)
    · exact ⟨_, List.mem_append_left _ (List.mem_map_of_mem hmem), rfl,
        (hmanifest manifest hmem).mpr hne⟩
    · exact ⟨write, List.mem_append_right _ hwrite, rfl, hne⟩

def writeVersions (project : Project) (version : String) (buildScript pipeline : Template)
    (manifests : List Path) : Job String := do
  let changed ← stampManifests version manifests
  Job.note .info .project
    ("Updated " ++ toString changed ++ " of " ++ toString manifests.length ++ " manifests")
  buildScript.write project.layout.buildOutput
  pipeline.write project.layout.pipelineOutput
  return version

theorem writeVersions_eq (project : Project) (version : String) (buildScript pipeline : Template)
    (manifests : List Path) :
    project.writeVersions version buildScript pipeline manifests =
      (stampManifests version manifests >>= fun changed =>
        Job.note .info .project ("Updated " ++ toString changed ++ " of " ++
          toString manifests.length ++ " manifests") >>= fun _ =>
        buildScript.write project.layout.buildOutput >>= fun _ =>
        pipeline.write project.layout.pipelineOutput >>= fun _ => pure version) := rfl

instance (project : Project) (version : String) (buildScript pipeline : Template)
    (manifests : List Path) :
    Job.OnTree (project.writeVersions version buildScript pipeline manifests) := by
  rw [writeVersions_eq]
  infer_instance

theorem updateVersions_eq_write (project : Project) : project.updateVersions =
    (project.readVersion >>= fun version =>
      Job.note .info .project ("Propagating version " ++ version) >>= fun _ =>
      project.renderBuildScript version >>= fun buildScript =>
      project.renderPipeline version >>= fun pipeline =>
      Manifest.find project.layout.root >>= fun manifests =>
      project.writeVersions version buildScript pipeline manifests) := rfl

/-- What is read, if nothing stops setting the versions before something is written. -/
structure Reads (project : Project) (tree : FileTree) (version : String)
    (script pipeline : Template) (paths : List Path) : Prop where
  readVersion : project.readVersion.effect tree = (.ok version, tree)
  renderScript : (project.renderBuildScript version).effect tree = (.ok script, tree)
  renderPipeline : (project.renderPipeline version).effect tree = (.ok pipeline, tree)
  find : (Manifest.find project.layout.root).effect tree = (.ok paths, tree)

theorem stopsEarly_or_reads (h : project.updateVersions.effect tree = (.error error, after)) :
    (StopsEarly project tree error ∧ after = tree) ∨
      ∃ version script pipeline paths, Reads project tree version script pipeline paths ∧
        (project.writeVersions version script pipeline paths).effect tree =
          (.error error, after) := by
  rw [updateVersions_eq_write] at h
  rcases effect_bind_error.mp h with hstop | ⟨version, read, hversion, htelling⟩
  · obtain ⟨hreason, rfl⟩ := effect_readVersion_error.mp hstop
    rcases hreason with ⟨fault, hfault, rfl⟩ | ⟨contents, htext, hblank⟩
    · exact Or.inl ⟨.versionFile hfault, rfl⟩
    · obtain ⟨hempty, rfl⟩ := versionOf_eq_error hblank
      exact Or.inl ⟨.blank htext hempty, rfl⟩
  obtain ⟨_, _, _, rfl⟩ := effect_readVersion.mp hversion
  rcases effect_bind_error.mp htelling with hstop | ⟨_, told, htold, hbuilding⟩
  · exact (effect_note_error.mp hstop).elim
  obtain rfl := effect_note.mp htold
  rcases effect_bind_error.mp hbuilding with hstop | ⟨script, built, hscript, hrendering⟩
  · obtain ⟨fault, hfault, rfl, rfl⟩ := effect_renderBuildScript_error.mp hstop
    exact Or.inl ⟨.buildTemplate hfault, rfl⟩
  obtain ⟨_, _, _, rfl⟩ := effect_renderBuildScript.mp hscript
  rcases effect_bind_error.mp hrendering with hstop | ⟨pipeline, ready, hpipeline, hwalking⟩
  · obtain ⟨fault, hfault, rfl, rfl⟩ := effect_renderPipeline_error.mp hstop
    exact Or.inl ⟨.pipelineTemplate hfault, rfl⟩
  obtain ⟨_, _, _, rfl⟩ := effect_renderPipeline.mp hpipeline
  rcases effect_bind_error.mp hwalking with hstop | ⟨paths, walked, hpaths, hwriting⟩
  · obtain ⟨found, ⟨path, fault⟩, rest, hwalk, rfl, rfl⟩ := Manifest.effect_find_error.mp hstop
    exact Or.inl ⟨.walk hwalk, rfl⟩
  obtain ⟨_, rfl⟩ := Manifest.effect_find.mp hpaths
  exact Or.inr ⟨version, script, pipeline, paths, ⟨hversion, hscript, hpipeline, hpaths⟩, hwriting⟩

variable {script pipeline : Template} {paths : List Path}

theorem Reads.enters (h : Reads project tree version script pipeline paths)
    (htree : Regular tree) : ∃ base, Enters tree project.layout.root base := by
  obtain ⟨_, hcontents, _⟩ := effect_readVersion.mp h.readVersion
  exact hcontents.enters htree Layout.isRoute_version

theorem Reads.finds (h : Reads project tree version script pipeline paths) (htree : Regular tree)
    (hbase : Enters tree project.layout.root base) :
    ∃ places, Finds project tree places ∧ paths = places.map (below project.layout.root) := by
  obtain ⟨hwalk, _⟩ := Manifest.effect_find.mp h.find
  obtain ⟨places, hfound, rfl⟩ := (FileTree.walk_eq_ok htree hbase).mp hwalk
  exact ⟨places, ⟨hfound, h.find⟩, rfl⟩

/-- What stops a call before anything is written is missing where all has been read. -/
theorem Reads.not_stopsEarly (h : Reads project tree version script pipeline paths) :
    ¬ StopsEarly project tree error := by
  intro hstop
  obtain ⟨contents, hcontents, hversion, _⟩ := effect_readVersion.mp h.readVersion
  obtain ⟨_, hscript, _, _⟩ := effect_renderBuildScript.mp h.renderScript
  obtain ⟨_, hpipeline, _, _⟩ := effect_renderPipeline.mp h.renderPipeline
  obtain ⟨hwalk, _⟩ := Manifest.effect_find.mp h.find
  cases hstop with
  | versionFile hfault => cases hfault.symm.trans hcontents
  | blank htext hblank =>
    obtain rfl := hcontents.unique htext
    rw [versionOf, hblank] at hversion
    cases hversion
  | buildTemplate hfault => cases hfault.symm.trans hscript
  | pipelineTemplate hfault => cases hfault.symm.trans hpipeline
  | @walk found path fault rest hstopped =>
    have hmem : .error (path, fault) ∈ paths.map (Except.ok (ε := Path × FileTree.Fault)) := by
      rw [← hwalk, hstopped]
      exact List.mem_append_right _ List.mem_cons_self
    obtain ⟨_, _, hsame⟩ := List.mem_map.mp hmem
    cases hsame

/-- Writing a template fails only where no file can be written in its place. -/
theorem effect_write_error_below {template : Template} {route : Place} (htree : Regular tree)
    (h : Ready tree project.layout.root base route) :
    (template.write (below project.layout.root route)).effect tree = (.error error, after) ↔
      ∃ fault, Unwritable tree (base ++ route) fault ∧
        error = Job.faultAt (below project.layout.root route) fault ∧ after = tree := by
  obtain ⟨init, last, rfl, hleads⟩ := h
  rw [Template.effect_write_error htree hleads, List.append_assoc]

section Written

variable {rest : List Place} {template : String}

/-- No file but the build script is written after the manifests and before the pipeline. -/
theorem overwrites_built (htree : Regular tree) (hbase : Enters tree project.layout.root base)
    (hfound : Found tree project.layout.root (done.map Prod.fst ++ rest))
    (hholds : ∀ manifest ∈ done, Holds tree project.layout.root manifest.1 manifest.2)
    (htemplate : Holds tree project.layout.root Layout.buildTemplateRoute template)
    (hbuild : ∀ write ∈ others, write.1 = Layout.buildRoute) (honce : (others.map Prod.fst).Nodup)
    {saved : List Place}
    (hsaved : SavedAll tree (under project.layout.root (stamped version done ++ others)) saved
      after) : Overwrites tree base (stamped version done ++ others) after := by
  refine overwrites_done htree hbase hfound hholds ?_ ?_ honce hsaved
  · intro write hwrite
    rw [hbuild write hwrite]
    exact ready_build htree hbase htemplate
  · intro write hwrite
    rw [hbuild write hwrite]
    exact Layout.isOutput_fixed _ (by simp)

theorem contentAt_pipeline (htree : Regular tree) (hbase : Enters tree project.layout.root base)
    (hfound : Found tree project.layout.root (done.map Prod.fst ++ rest))
    (hbuild : ∀ write ∈ others, write.1 = Layout.buildRoute)
    (h : Overwrites tree base (stamped version done ++ others) after) :
    after.root.contentAt (base ++ Layout.pipelineRoute) =
      tree.root.contentAt (base ++ Layout.pipelineRoute) := by
  have hne : Layout.buildRoute ≠ Layout.pipelineRoute := by decide
  refine contentAt_output htree hbase hfound h (Layout.isOutput_fixed _ (by simp)) ?_
  intro write hwrite
  rw [hbuild write hwrite]
  exact hne

end Written

/-- Once the manifests are done, nothing but the place of an output is at fault. -/
theorem stopsLate_of_outputs {middle : FileTree} {saved : List Place}
    (hreads : Reads project tree version script pipeline paths) (htree : Regular tree)
    (hbase : Enters tree project.layout.root base) (hfinds : Finds project tree (done.map Prod.fst))
    (hholds : ∀ manifest ∈ done, Holds tree project.layout.root manifest.1 manifest.2)
    (hsaved : SavedAll tree (under project.layout.root (stamped version done)) saved middle)
    (h : (script.write project.layout.buildOutput >>= fun _ =>
      pipeline.write project.layout.pipelineOutput >>= fun _ => pure version).effect middle =
        (.error error, after)) :
    ∃ others, StopsLate project tree base version done others error ∧
      (∃ saved, SavedAll tree (under project.layout.root (stamped version done ++ others)) saved
        after) ∧ Overwrites tree base (stamped version done ++ others) after := by
  have hmiddle := hsaved.regular htree
  have hfound := hfinds.found
  rw [← List.append_nil (done.map Prod.fst)] at hfound
  obtain ⟨_, htemplate, _⟩ := effect_renderBuildScript.mp hreads.renderScript
  rcases effect_bind_error.mp h with hstop | ⟨_, built, hbuilt, hrest⟩
  · obtain ⟨fault, hfault, rfl, rfl⟩ := (effect_write_error_below hmiddle
      ((ready_build htree hbase htemplate).grown (hsaved.grown htree))).mp hstop
    rw [← List.append_nil (stamped version done)] at hsaved
    have hover := overwrites_built htree hbase hfound hholds htemplate (List.forall_mem_nil _)
      List.nodup_nil hsaved
    have hsame := contentAt_output htree hbase hfound hover
      (Layout.isOutput_fixed Layout.buildRoute (by simp)) (List.forall_mem_nil _)
    exact ⟨[], .build hfinds hholds (hfault.of_eq hsame hover.sealed), ⟨saved, hsaved⟩, hover⟩
  · obtain ⟨_, hwritten, _⟩ := (Template.effect_write hmiddle).mp hbuilt
    have hscript : ∃ saved, SavedAll middle
        (under project.layout.root [(Layout.buildRoute, script.inner)]) saved built :=
      FileTree.savedAll_singleton.mpr ⟨_, hwritten⟩
    obtain ⟨saved', hall⟩ := FileTree.savedAll_under_append.mpr ⟨middle, ⟨saved, hsaved⟩, hscript⟩
    rw [effect_bind_pure_error] at hrest
    obtain ⟨fault, hfault, rfl, rfl⟩ := (effect_write_error_below (hall.regular htree)
      ((ready_pipeline htree hbase htemplate).grown (hall.grown htree))).mp hrest
    have hbuild : ∀ write ∈ [(Layout.buildRoute, script.inner)], write.1 = Layout.buildRoute := by
      simp
    have hover := overwrites_built htree hbase hfound hholds htemplate hbuild
      (List.pairwise_singleton _ _) hall
    have hsame := contentAt_pipeline htree hbase hfound hbuild hover
    exact ⟨_, .pipeline hfinds hholds hreads.renderScript (hfault.of_eq hsame hover.sealed),
      ⟨saved', hall⟩, hover⟩

/-- Writing stops at a manifest or at an output, and leaves what has been written before. -/
theorem stopsLate_of_write (hreads : Reads project tree version script pipeline paths)
    (htree : Regular tree) (hbase : Enters tree project.layout.root base)
    (h : (project.writeVersions version script pipeline paths).effect tree =
      (.error error, after)) :
    ∃ done others, StopsLate project tree base version done others error ∧
      (∃ saved, SavedAll tree (under project.layout.root (stamped version done ++ others)) saved
        after) ∧ Overwrites tree base (stamped version done ++ others) after := by
  obtain ⟨places, hfinds, rfl⟩ := hreads.finds htree hbase
  have hroutes : ∀ place ∈ places, IsRoute place :=
    fun place hplace => hfinds.found.isRoute htree hplace
  have honce := hfinds.found.nodup htree
  rw [writeVersions_eq] at h
  rcases effect_bind_error.mp h with hstop | ⟨changed, middle, hstamp, htelling⟩
  · obtain ⟨done, place, rest, fault, rfl, hholds, hfault, rfl, saved, hsaved⟩ :=
      effect_stampManifests_error htree hbase hroutes honce hstop
    obtain ⟨_, htemplate, _⟩ := effect_renderBuildScript.mp hreads.renderScript
    rw [← List.append_nil (stamped version done)] at hsaved
    exact ⟨done, [], .manifest hfinds hholds hfault, ⟨saved, hsaved⟩,
      overwrites_built htree hbase hfinds.found hholds htemplate (List.forall_mem_nil _)
        List.nodup_nil hsaved⟩
  · obtain ⟨done, ⟨rfl, hholds⟩, _, saved, hsaved⟩ :=
      (effect_stampManifests htree hbase hroutes honce).mp hstamp
    rcases effect_bind_error.mp htelling with hstop | ⟨_, told, htold, hrest⟩
    · exact (effect_note_error.mp hstop).elim
    · obtain rfl := effect_note.mp htold
      exact ⟨done, stopsLate_of_outputs hreads htree hbase hfinds hholds hsaved hrest⟩

/-- Setting the versions either fails before anything is written, and then changes nothing, or has
set the version of the manifests up to where it stops, and may have written the build script. The
pipeline is as it was. -/
theorem updateVersions_failure (project : Project) {session after : Session}
    (hsession : Regular session.tree) {error : Error}
    (h : project.updateVersions.perform session = (.error error, after)) :
    ((StopsEarly project session.tree error ∧ after.tree = session.tree) ∨
      ∃ (version : String) (base : Place) (done others : List (Place × String)),
        (∀ early, ¬ StopsEarly project session.tree early) ∧
        project.readVersion.effect session.tree = (.ok version, session.tree) ∧
        Enters session.tree project.layout.root base ∧
        StopsLate project session.tree base version done others error ∧
        (∀ manifest ∈ done, after.tree.readText (below project.layout.root manifest.1) =
          .ok (Manifest.bump manifest.2 version)) ∧
        (∀ write ∈ others,
          after.tree.readText (below project.layout.root write.1) = .ok write.2) ∧
        ∀ place, after.tree.root.contentAt place ≠ session.tree.root.contentAt place ↔
          (∃ manifest ∈ done, place = base ++ manifest.1 ∧
            Manifest.bump manifest.2 version ≠ manifest.2) ∨
          ∃ write ∈ others, place = base ++ write.1 ∧
            session.tree.root.contentAt place ≠ some (.file write.2.toUTF8)) ∧
    ∀ base, Enters session.tree project.layout.root base →
      after.tree.root.contentAt (base ++ ([".drone.yml"] : Place)) =
        session.tree.root.contentAt (base ++ ([".drone.yml"] : Place)) := by
  rcases stopsEarly_or_reads (Job.effect_eq h) with
    ⟨hearly, hsame⟩ | ⟨version, script, pipeline, paths, hreads, hwrite⟩
  · refine ⟨Or.inl ⟨hearly, hsame⟩, ?_⟩
    intro base _
    rw [hsame]
  · obtain ⟨base, hbase⟩ := hreads.enters hsession
    obtain ⟨done, others, hlate, ⟨saved, hsaved⟩, hover⟩ :=
      stopsLate_of_write hreads hsession hbase hwrite
    obtain ⟨rest, hfound⟩ := hlate.found
    have hroutes : ∀ manifest ∈ done, IsRoute manifest.1 := fun manifest hmanifest =>
      hfound.isRoute hsession (List.mem_append_left rest (List.mem_map_of_mem hmanifest))
    have hholds := hlate.holds_written hsession hbase hsaved
    refine ⟨Or.inr ⟨version, base, done, others, fun _ => hreads.not_stopsEarly,
      hreads.readVersion, hbase, hlate, ?_, ?_,
      changed_stamped hsession hbase hroutes hlate.holds hover⟩, ?_⟩
    · intro manifest hmanifest
      exact hholds (manifest.1, Manifest.bump manifest.2 version)
        (List.mem_append_left others (List.mem_map_of_mem hmanifest))
    · intro write hwrite
      exact hholds write (List.mem_append_right (stamped version done) hwrite)
    · intro base' hbase'
      obtain rfl := hbase.unique hbase'
      exact contentAt_pipeline hsession hbase hfound hlate.only_build hover

def sealedTree : FileTree where
  root := .folder [("repo", .folder [
    ("Cargo.toml", .file "[package]\nversion = \"0.1.0\"\n".toUTF8),
    ("VERSION", .file "2.0\n".toUTF8),
    ("helpers", .folder [("templates", .folder [
      ("build.temp", .file "%%TAG-VERSION%%".toUTF8),
      ("drone.temp", .file "%%IMAGE-VERSION-AMD64%%".toUTF8)])]),
    ("sub", .folder [("Cargo.toml", .file "[package]\nversion = \"0.1.0\"\n".toUTF8)])])]
  sealed := [["repo", "sub", "Cargo.toml"]]

theorem updateVersions_failure_sealed_manifest :
    Regular sealedTree ∧ ∃ (after : Session) (version : String) (base : Place)
      (done others : List (Place × String)),
      sample.updateVersions.perform { tree := sealedTree } =
        (.error (Job.faultAt "repo/sub/Cargo.toml" .denied), after) ∧
      StopsLate sample sealedTree base version done others
        (Job.faultAt "repo/sub/Cargo.toml" .denied) ∧
      (∀ manifest ∈ done, after.tree.readText (below sample.layout.root manifest.1) =
        .ok (Manifest.bump manifest.2 version)) ∧
      after.tree.readText "repo/Cargo.toml" ≠ sealedTree.readText "repo/Cargo.toml" := by
  have hregular : Regular sealedTree := by
    refine ⟨?_, ?_, rfl⟩
    · simp only [sealedTree, FileTree.Node.Proper, FileTree.ProperChildren, List.forall_mem_cons]
      decide +kernel
    · simp [sealedTree, FileTree.Node.Linkless, FileTree.LinklessChildren]
  have herror : (sample.updateVersions.perform { tree := sealedTree }).1 =
      .error (Job.faultAt "repo/sub/Cargo.toml" .denied) := by decide +kernel
  have hchanged : (sample.updateVersions.perform { tree := sealedTree }).2.tree.readText
      "repo/Cargo.toml" ≠ sealedTree.readText "repo/Cargo.toml" := by decide +kernel
  obtain ⟨after, hupdate⟩ := Job.perform_of_fst herror
  rw [hupdate] at hchanged
  rcases (updateVersions_failure sample hregular hupdate).1 with
    ⟨_, hsame⟩ | ⟨version, base, done, others, _, _, _, hlate, hdone, _⟩
  · rw [hsame] at hchanged
    exact absurd rfl hchanged
  · exact ⟨hregular, after, version, base, done, others, hupdate, hlate, hdone, hchanged⟩

end ReleaseStamp.Project
