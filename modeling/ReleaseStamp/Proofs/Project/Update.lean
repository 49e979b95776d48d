import ReleaseStamp.Proofs.Project.History
import ReleaseStamp.Proofs.Session.Infos

/-!
# Setting the versions of a tree

Everything is read before anything is written, but for the manifests: these are read and written one
after the other. So what is left behind is known from the tree that was there, whether all has been
written or something has failed.
-/
namespace ReleaseStamp.Project

open FileTree (Regular Saved SavedAll Place below under Enters IsRoute Holds Found Ready Overwrites)
open Layout (IsOutput)
open Job (Apart Keeps effect_note)

variable {project : Project} {tree before after : FileTree} {base : Place}
  {version text : String}

theorem isRoute_buildTemplate : IsRoute Layout.buildTemplateRoute :=
  (Layout.isSource_fixed _ (by simp)).isRoute

theorem isRoute_build : IsRoute Layout.buildRoute := (Layout.isOutput_fixed _ (by simp)).isRoute

theorem isRoute_pipeline : IsRoute Layout.pipelineRoute :=
  (Layout.isOutput_fixed _ (by simp)).isRoute

/-- The template of the build script lies deeper in the folder that the script is written to, under
a longer path. -/
theorem ready_build (htree : Regular tree) (hbase : Enters tree project.layout.root base)
    (h : Holds tree project.layout.root Layout.buildTemplateRoute text) :
    Ready tree project.layout.root base Layout.buildRoute := by
  obtain ⟨hfits, _, hfile⟩ :=
    (FileTree.readText_below_iff htree hbase isRoute_buildTemplate).mp h
  refine (FileTree.ready_iff htree hbase isRoute_build).mpr ⟨?_, by decide, ?_⟩
  · exact hfits.route isRoute_buildTemplate isRoute_build (by decide) (by decide)
  · have hroute : Layout.buildTemplateRoute =
        (["helpers"] : Place) ++ (["templates", "build.temp"] : Place) := rfl
    rw [hroute, ← List.append_assoc] at hfile
    exact FileTree.contentAt_of_append hfile (List.cons_ne_nil _ _)

theorem ready_pipeline (htree : Regular tree) (hbase : Enters tree project.layout.root base)
    (h : Holds tree project.layout.root Layout.buildTemplateRoute text) :
    Ready tree project.layout.root base Layout.pipelineRoute := by
  obtain ⟨hfits, _⟩ := (FileTree.readText_below_iff htree hbase isRoute_buildTemplate).mp h
  refine (FileTree.ready_iff htree hbase isRoute_pipeline).mpr ⟨?_, by decide, ?_⟩
  · exact hfits.route isRoute_buildTemplate isRoute_pipeline (by decide) (by decide)
  · have hroute : base ++ Layout.pipelineRoute.dropLast = base := List.append_nil base
    rw [hroute]
    exact hbase.isFolder htree

section Keeps

variable {γ : Type} {view : Session → γ} [Apart view]

instance (path : Path) : Keeps view (Template.load path) :=
  inferInstanceAs (Keeps view (Job.readText path >>= fun _ => pure _))

instance (template : Template) (name : String) (tokens : List (String × String)) :
    Keeps view (template.fill name tokens) := by
  unfold Template.fill
  simp only
  split
  · infer_instance
  · exact inferInstanceAs (Keeps view (pure _ : Job Template))

instance (project : Project) : Keeps view project.readVersion := by
  rw [readVersion_eq]
  infer_instance

instance (project : Project) (version : String) : Keeps view (project.renderBuildScript version) :=
  inferInstanceAs (Keeps view (Template.load _ >>= fun template => template.fill _ _))

instance (project : Project) (version : String) : Keeps view (project.renderPipeline version) :=
  inferInstanceAs (Keeps view (Template.load _ >>= fun template => template.fill _ _))

instance keeps_meet (encounter : FileTree.Encounter) : Keeps view (Manifest.meet encounter) := by
  cases encounter with
  | ok manifest =>
    exact inferInstanceAs (Keeps view (Job.note .debug _ _ >>= fun _ => pure manifest))
  | error stop => exact inferInstanceAs (Keeps view (throw _ : Job Path))

instance (path : Path) : Keeps view (Manifest.find path) := by
  rw [Manifest.find_eq]
  infer_instance

instance (path : Path) (version : String) : Keeps view (Manifest.stamp path version) := by
  rw [Manifest.stamp_eq]
  infer_instance

instance keeps_stampManifests (version : String) (paths : List Path) :
    Keeps view (stampManifests version paths) := by
  induction paths with
  | nil => exact inferInstanceAs (Keeps view (pure 0 : Job Nat))
  | cons path paths ih =>
    exact inferInstanceAs (Keeps view (Manifest.stamp path version >>= fun changed =>
      stampManifests version paths >>= fun count => pure (changed.toNat + count)))

end Keeps

def wrote (template : Template) (path : Path) : Log.Record :=
  ⟨.info, .project, "Wrote " ++ template.name ++ " to " ++ path.shown⟩

theorem infos_write {template : Template} {path : Path} {session after : Session} {value : Unit}
    (h : (template.write path).perform session = (.ok value, after)) :
    after.infos = session.infos ++ [wrote template path] := by
  unfold Template.write at h
  obtain ⟨_, between, hwrite, hnote⟩ := Job.perform_bind_ok.mp h
  rw [Job.infos_of_note hnote, Job.infos_eq hwrite]
  rfl

/-- The records of setting the versions of a tree: which version, how many of the manifests were not
up to date, and what has been written. -/
def updateRecords (project : Project) (version : String) (changed found : Nat)
    (script pipeline : Template) : List Log.Record :=
  [⟨.info, .project, "Propagating version " ++ version⟩,
    ⟨.info, .project,
      "Updated " ++ toString changed ++ " of " ++ toString found ++ " manifests"⟩,
    wrote script project.layout.buildOutput, wrote pipeline project.layout.pipelineOutput]

theorem infos_updateVersions {session after : Session}
    (h : project.updateVersions.perform session = (.ok version, after)) :
    ∃ (script pipeline : Template) (paths : List Path) (changed : Nat) (between : FileTree),
      (project.renderBuildScript version).effect session.tree = (.ok script, session.tree) ∧
      (project.renderPipeline version).effect session.tree = (.ok pipeline, session.tree) ∧
      (Manifest.find project.layout.root).effect session.tree = (.ok paths, session.tree) ∧
      (stampManifests version paths).effect session.tree = (.ok changed, between) ∧
      after.infos = session.infos ++
        project.updateRecords version changed paths.length script pipeline := by
  rw [updateVersions_eq] at h
  simp only [Job.perform_bind_ok, Job.perform_pure, Prod.mk.injEq, Except.ok.injEq] at h
  obtain ⟨version, read, hread, _, told, htold, script, built, hscript, pipeline, ready, hpipeline,
    paths,
    walked, hfind, changed, stamped, hstamp, _, counted, hcount, _, first, hfirst, _, last, hlast,
    rfl, rfl⟩ := h
  have hinfos : last.infos = session.infos ++
      project.updateRecords version changed paths.length script pipeline := by
    rw [infos_write hlast, infos_write hfirst, Job.infos_of_note hcount, Job.infos_eq hstamp,
      Job.infos_eq hfind, Job.infos_eq hpipeline, Job.infos_eq hscript,
      Job.infos_of_note htold, Job.infos_eq hread]
    simp [updateRecords]
  -- Up to the walk every step leaves the tree as it is.
  obtain ⟨_, _, _, hread'⟩ := effect_readVersion.mp (Job.effect_eq hread)
  have htold' := effect_note.mp (Job.effect_eq htold)
  obtain ⟨_, _, _, hscript'⟩ := effect_renderBuildScript.mp (Job.effect_eq hscript)
  obtain ⟨_, _, _, hpipeline'⟩ := effect_renderPipeline.mp (Job.effect_eq hpipeline)
  obtain ⟨_, hfind'⟩ := Manifest.effect_find.mp (Job.effect_eq hfind)
  have htold'' : told.tree = session.tree := htold'.trans hread'
  have hbuilt : built.tree = session.tree := hscript'.trans htold''
  have hready : ready.tree = session.tree := hpipeline'.trans hbuilt
  have hwalked : walked.tree = session.tree := hfind'.trans hready
  refine ⟨script, pipeline, paths, changed, stamped.tree, ?_, ?_, ?_, ?_, hinfos⟩
  · rw [← htold'', Job.effect_eq hscript, hscript']
  · rw [← hbuilt, Job.effect_eq hpipeline, hpipeline']
  · rw [← hready, Job.effect_eq hfind, hfind']
  · rw [← hwalked, Job.effect_eq hstamp]

variable {done others : List (Place × String)} {rest : List Place}

/-- No place is written twice. -/
theorem nodup_done (htree : Regular tree) (hbase : Enters tree project.layout.root base)
    (hfound : Found tree project.layout.root (done.map Prod.fst ++ rest))
    (houtput : ∀ write ∈ others, IsOutput write.1) (honce : (others.map Prod.fst).Nodup)
    (version : String) : ((stamped version done ++ others).map Prod.fst).Nodup := by
  rw [List.map_append, stamped_fst, List.nodup_append]
  refine ⟨(List.nodup_append.mp (hfound.nodup htree)).1, honce, ?_⟩
  intro place hplace output hmem hsame
  obtain ⟨write, hwrite, rfl⟩ := List.mem_map.mp hmem
  have hlast := ((hfound.mem_iff htree hbase).mp (List.mem_append_left rest hplace)).2.1
  rw [hsame] at hlast
  exact (houtput write hwrite).last hlast

/-- Where manifests have been stamped and outputs have been written, nothing else has changed. -/
theorem overwrites_done (hbefore : Regular before)
    (hbase : Enters before project.layout.root base)
    (hfound : Found before project.layout.root (done.map Prod.fst ++ rest))
    (hholds : ∀ manifest ∈ done, Holds before project.layout.root manifest.1 manifest.2)
    (hready : ∀ write ∈ others, Ready before project.layout.root base write.1)
    (houtput : ∀ write ∈ others, IsOutput write.1) (honce : (others.map Prod.fst).Nodup)
    {saved : List Place}
    (hsaved : SavedAll before (under project.layout.root (stamped version done ++ others)) saved
      after) : Overwrites before base (stamped version done ++ others) after := by
  refine hsaved.overwrites hbefore ?_ (nodup_done hbefore hbase hfound houtput honce version)
  intro write hwrite
  rcases List.mem_append.mp hwrite with hwrite | hwrite
  · obtain ⟨manifest, hmanifest, rfl⟩ := List.mem_map.mp hwrite
    have hplace := List.mem_append_left rest (List.mem_map_of_mem (f := Prod.fst) hmanifest)
    exact (hholds manifest hmanifest).ready hbefore hbase (hfound.isRoute hbefore hplace)
  · exact hready write hwrite

/-- An output that has not been written is as it was. -/
theorem contentAt_output (hbefore : Regular before)
    (hbase : Enters before project.layout.root base)
    (hfound : Found before project.layout.root (done.map Prod.fst ++ rest))
    (h : Overwrites before base (stamped version done ++ others) after) {route : Place}
    (houtput : IsOutput route) (hnew : ∀ write ∈ others, write.1 ≠ route) :
    after.root.contentAt (base ++ route) = before.root.contentAt (base ++ route) := by
  apply h.kept
  intro write hwrite hsame
  have hroute := List.append_cancel_left hsame
  rcases List.mem_append.mp hwrite with hwrite | hwrite
  · obtain ⟨manifest, hmanifest, rfl⟩ := List.mem_map.mp hwrite
    have hplace := List.mem_append_left rest (List.mem_map_of_mem (f := Prod.fst) hmanifest)
    have hlast := ((hfound.mem_iff hbefore hbase).mp hplace).2.1
    rw [hroute] at houtput
    exact houtput.last hlast
  · exact hnew write hwrite hroute.symm

theorem VersionInputs.In.found_append {inputs : VersionInputs} (h : inputs.In project tree) :
    Found tree project.layout.root (inputs.manifests.map Prod.fst ++ []) := by
  rw [List.append_nil]
  exact h.found

theorem VersionInputs.In.once {inputs : VersionInputs} (h : inputs.In project tree)
    (htree : Regular tree) (hbase : Enters tree project.layout.root base) (version : String) :
    ((inputs.writes project version).map Prod.fst).Nodup := by
  have honce : [Layout.buildRoute, Layout.pipelineRoute].Nodup := by decide
  exact nodup_done htree hbase h.found_append (inputs.isOutput project version) honce version

theorem VersionInputs.In.overwrites {inputs : VersionInputs} (h : inputs.In project before)
    (hbefore : Regular before) (hbase : Enters before project.layout.root base)
    {saved : List Place}
    (hsaved : SavedAll before (under project.layout.root (inputs.writes project version)) saved
      after) : Overwrites before base (inputs.writes project version) after := by
  have hready : ∀ write ∈ inputs.outputs project version,
      Ready before project.layout.root base write.1 := by
    simp only [VersionInputs.outputs, List.forall_mem_cons]
    exact ⟨ready_build hbefore hbase h.build, ready_pipeline hbefore hbase h.build,
      List.forall_mem_nil _⟩
  have honce : [Layout.buildRoute, Layout.pipelineRoute].Nodup := by decide
  exact overwrites_done hbefore hbase h.found_append h.manifests hready
    (inputs.isOutput project version) honce hsaved

/-- A walk finds the manifests of the inputs. -/
theorem VersionInputs.In.paths_eq {inputs : VersionInputs} (h : inputs.In project tree)
    (htree : Regular tree) (hbase : Enters tree project.layout.root base) {paths : List Path}
    (hfind : (Manifest.find project.layout.root).effect tree = (.ok paths, after)) :
    paths = (inputs.manifests.map Prod.fst).map (below project.layout.root) := by
  obtain ⟨hwalk, _⟩ := Manifest.effect_find.mp hfind
  obtain ⟨places, hfound, rfl⟩ := (FileTree.walk_eq_ok htree hbase).mp hwalk
  rw [hfound.unique h.found]

theorem VersionInputs.In.changed_eq {inputs : VersionInputs} (h : inputs.In project tree)
    (htree : Regular tree) (hbase : Enters tree project.layout.root base) {changed : Nat}
    (hstamp : (stampManifests version
      ((inputs.manifests.map Prod.fst).map (below project.layout.root))).effect tree =
        (.ok changed, after)) : changed = outdated version inputs.manifests := by
  have hroutes : ∀ place ∈ inputs.manifests.map Prod.fst, IsRoute place :=
    fun place hplace => h.found.isRoute htree hplace
  obtain ⟨manifests, hmanifests, rfl, _⟩ :=
    (effect_stampManifests htree hbase hroutes (h.found.nodup htree)).mp hstamp
  have hgiven : Job.Answered (Holds tree project.layout.root) (inputs.manifests.map Prod.fst)
      inputs.manifests := ⟨rfl, h.manifests⟩
  rw [hmanifests.unique hgiven fun _ _ _ => FileTree.Holds.unique]

/-- What is written are the stamped manifests and the two templates as they are filled. -/
theorem VersionInputs.In.writes_eq {inputs : VersionInputs} (h : inputs.In project tree)
    {script pipeline : Template}
    (hscript : (project.renderBuildScript version).effect tree = (.ok script, tree))
    (hpipeline : (project.renderPipeline version).effect tree = (.ok pipeline, tree)) :
    inputs.writes project version = Project.stamped version inputs.manifests ++
      [(Layout.buildRoute, script.inner), (Layout.pipelineRoute, pipeline.inner)] := by
  obtain ⟨build, hbuild, rfl, _⟩ := effect_renderBuildScript.mp hscript
  obtain ⟨template, htemplate, rfl, _⟩ := effect_renderPipeline.mp hpipeline
  obtain rfl := h.build.unique hbuild
  obtain rfl := h.pipeline.unique htemplate
  rfl

/-- Setting the versions reads the version and the templates, finds the manifests, and changes
nothing but the manifests, the build script and the pipeline. -/
theorem updateVersions_success (project : Project) {session after : Session}
    (hsession : Regular session.tree) {version : String}
    (h : project.updateVersions.perform session = (.ok version, after)) :
    ∃ (base : Place) (contents : String) (manifests : List (Place × String))
      (script pipeline : Template),
      Enters session.tree project.layout.root base ∧
      session.tree.readText project.layout.versionFile = .ok contents ∧
      version = String.ofList (Text.trim contents.toList) ∧
      (Manifest.find project.layout.root).effect session.tree =
        (.ok (manifests.map fun manifest => below project.layout.root manifest.1), session.tree) ∧
      (project.renderBuildScript version).effect session.tree = (.ok script, session.tree) ∧
      (project.renderPipeline version).effect session.tree = (.ok pipeline, session.tree) ∧
      (∀ manifest ∈ manifests,
        session.tree.readText (below project.layout.root manifest.1) = .ok manifest.2 ∧
        after.tree.readText (below project.layout.root manifest.1) =
          .ok (Manifest.bump manifest.2 version)) ∧
      after.tree.readText project.layout.buildOutput = .ok script.inner ∧
      after.tree.readText project.layout.pipelineOutput = .ok pipeline.inner ∧
      Overwrites session.tree base
        ((manifests.map fun manifest => (manifest.1, Manifest.bump manifest.2 version)) ++
          ([(["helpers", "docker-build.sh"], script.inner), ([".drone.yml"], pipeline.inner)] :
            List (Place × String)))
        after.tree ∧
      after.infos = session.infos ++ project.updateRecords version
        (manifests.countP fun manifest => Manifest.bump manifest.2 version ≠ manifest.2)
        manifests.length script pipeline := by
  obtain ⟨script, pipeline, paths, changed, between, hscript, hpipeline, hfind, hstamp, hinfos⟩ :=
    infos_updateVersions h
  obtain ⟨inputs, hin, hversion, saved, hsaved, _⟩ :=
    (effect_updateVersions hsession).mp (Job.effect_eq h)
  obtain ⟨base, _, hbase, _⟩ := hin.found.walk
  obtain rfl := hin.paths_eq hsession hbase hfind
  obtain rfl := hin.changed_eq hsession hbase hstamp
  have hwrites := hin.writes_eq hscript hpipeline
  have hroutes : ∀ write ∈ inputs.writes project version, IsRoute write.1 :=
    fun write hwrite => (hin.isWritten hsession version write hwrite).isRoute
  have hholds := fun write (hwrite : write ∈ inputs.writes project version) =>
    hsaved.holds_written hsession hbase hroutes (hin.once hsession hbase version) hwrite
  have hover := hin.overwrites hsession hbase hsaved
  rw [hwrites] at hover hholds
  rw [List.map_map] at hfind
  refine ⟨base, inputs.version, inputs.manifests, script, pipeline, hbase, hin.version, ?_, hfind,
    hscript, hpipeline, ?_, ?_, ?_, hover, ?_⟩
  · rw [← versionOf_eq_ok hversion, String.ofList_toList]
  · intro manifest hmanifest
    refine ⟨hin.manifests manifest hmanifest, ?_⟩
    exact hholds (manifest.1, Manifest.bump manifest.2 version)
      (List.mem_append_left _ (List.mem_map_of_mem hmanifest))
  · exact hholds (Layout.buildRoute, script.inner) (by simp)
  · exact hholds (Layout.pipelineRoute, pipeline.inner) (by simp)
  · rw [hinfos, List.length_map, List.length_map]
    rfl

theorem updateVersions_success_two_parts :
    Regular (sampleTree "2.0\n") ∧
    ∃ (after : Session) (base : Place) (manifests : List (Place × String))
      (script pipeline : Template),
      sample.updateVersions.perform { tree := sampleTree "2.0\n" } = (.ok "2.0", after) ∧
      Overwrites (sampleTree "2.0\n") base
        ((manifests.map fun manifest => (manifest.1, Manifest.bump manifest.2 "2.0")) ++
          ([(["helpers", "docker-build.sh"], script.inner), ([".drone.yml"], pipeline.inner)] :
            List (Place × String)))
        after.tree ∧
      after.infos = sample.updateRecords "2.0"
        (manifests.countP fun manifest => Manifest.bump manifest.2 "2.0" ≠ manifest.2)
        manifests.length script pipeline := by
  have hversion : (sample.updateVersions.perform { tree := sampleTree "2.0\n" }).1 = .ok "2.0" := by
    decide +kernel
  obtain ⟨after, hupdate⟩ := Job.perform_of_fst hversion
  have hregular := regular_sampleTree "2.0\n"
  obtain ⟨base, _, manifests, script, pipeline, _, _, _, _, _, _, _, _, _, hover, hinfos⟩ :=
    updateVersions_success sample hregular hupdate
  exact ⟨hregular, after, base, manifests, script, pipeline, hupdate, hover, hinfos⟩

end ReleaseStamp.Project
