import ReleaseStamp.Proofs.Project.Inputs

/-!
# What a run reads and writes

A run succeeds exactly if its inputs are there before it starts and its outputs can be written one
after the other: what a stage writes is never read by a later one.
-/
namespace ReleaseStamp.Project

open FileTree (Regular Saved SavedAll SavedFrom Place under Enters Holds)
open Layout (IsWritten)
open Job (OnTree effect_bind effect_pure effect_note Answered)

variable {project : Project} {tree after : FileTree} {base : Place} {version : String}
  {answer : String → String → Except Error String}

theorem updateVersions_eq (project : Project) : project.updateVersions =
    (project.readVersion >>= fun version =>
      Job.note .info .project ("Propagating version " ++ version) >>= fun _ =>
      project.renderBuildScript version >>= fun buildScript =>
      project.renderPipeline version >>= fun pipeline =>
      Manifest.find project.layout.root >>= fun manifests =>
      stampManifests version manifests >>= fun changed =>
      Job.note .info .project ("Updated " ++ toString changed ++ " of " ++
        toString manifests.length ++ " manifests") >>= fun _ =>
      buildScript.write project.layout.buildOutput >>= fun _ =>
      pipeline.write project.layout.pipelineOutput >>= fun _ => pure version) := rfl

instance (project : Project) : OnTree project.updateVersions := by
  rw [updateVersions_eq]
  infer_instance

theorem regular_of_saved {path : Path} {text : String} (htree : Regular tree)
    (h : ∃ place, Saved tree path text place after ∧ place ∉ tree.sealed) :
    Regular after := by
  obtain ⟨_, hsaved, _⟩ := h
  exact (hsaved.writes htree).regular

/-- The manifests are stamped where they are not up to date, and the two outputs are written. -/
theorem savedFrom_writes {inputs : VersionInputs} (htree : Regular tree) :
    SavedFrom tree inputs.manifests.length
        (under project.layout.root (inputs.writes project version)) after ↔
      ∃ stamped, (∃ saved, SavedAll tree
          (under project.layout.root (Project.stamped version inputs.manifests)) saved stamped) ∧
        ∃ built, (∃ place, Saved stamped project.layout.buildOutput
            (Placeholder.fill inputs.build (project.buildTokens version)) place built ∧
            place ∉ stamped.sealed) ∧
          ∃ place, Saved built project.layout.pipelineOutput
            (Placeholder.fill inputs.pipeline (project.pipelineTokens version)) place after ∧
            place ∉ built.sealed := by
  have hlength : inputs.manifests.length =
      (under project.layout.root (Project.stamped version inputs.manifests)).length := by
    rw [under, Project.stamped, List.length_map, List.length_map]
  have hcount : inputs.manifests.length ≤ (Project.stamped version inputs.manifests).length := by
    rw [Project.stamped, List.length_map]
  rw [VersionInputs.writes, FileTree.savedFrom_under_append htree hcount]
  refine exists_congr fun stamped => ?_
  rw [hlength, FileTree.savedFrom_length]
  refine and_congr_right ?_
  rintro ⟨saved, hsaved⟩
  have hsplit : under project.layout.root (inputs.outputs project version) =
      [(project.layout.buildOutput, Placeholder.fill inputs.build (project.buildTokens version))] ++
        [(project.layout.pipelineOutput,
          Placeholder.fill inputs.pipeline (project.pipelineTokens version))] := rfl
  rw [hsplit, FileTree.savedFrom_append (hsaved.regular htree) (Nat.zero_le _)]
  simp only [FileTree.savedFrom_singleton]

theorem effect_updateVersions (htree : Regular tree) :
    project.updateVersions.effect tree = (.ok version, after) ↔
      ∃ inputs : VersionInputs, inputs.In project tree ∧
        versionOf project.layout.versionFile inputs.version = .ok version ∧
        SavedFrom tree inputs.manifests.length
          (under project.layout.root (inputs.writes project version)) after := by
  rw [updateVersions_eq]
  simp only [effect_bind, effect_readVersion, effect_note, effect_renderBuildScript,
    effect_renderPipeline, Manifest.effect_find, effect_pure]
  constructor
  · rintro ⟨_, _, ⟨contents, hcontents, hversion, rfl⟩, _, _, rfl, _, _, ⟨build, hbuild, rfl, rfl⟩,
      _, _, ⟨pipeline, hpipeline, rfl, rfl⟩, _, _, ⟨hpaths, rfl⟩, _, _, hstamped, _, _, rfl,
      _, built, hbuilt, _, _, hlast, rfl, rfl⟩
    obtain ⟨base, hbase⟩ := hcontents.enters htree Layout.isRoute_version
    obtain ⟨places, hfound, rfl⟩ := (FileTree.walk_eq_ok htree hbase).mp hpaths
    obtain ⟨manifests, hmanifests, _, saved, hsaved⟩ := (effect_stampManifests htree hbase
      (fun place hplace => hfound.isRoute htree hplace) (hfound.nodup htree)).mp hstamped
    have hregular := hsaved.regular htree
    have hplace := (Template.effect_write hregular).mp hbuilt
    have hplace' := (Template.effect_write (regular_of_saved hregular hplace)).mp hlast
    refine ⟨⟨contents, build, pipeline, manifests⟩,
      ⟨hcontents, hbuild, hpipeline, ?_, hmanifests.given⟩, hversion,
      (savedFrom_writes htree).mpr ⟨_, ⟨saved, hsaved⟩, built, hplace, hplace'⟩⟩
    rw [hmanifests.asked]
    exact hfound
  · rintro ⟨inputs, hin, hversion, hwrites⟩
    obtain ⟨stamped, ⟨saved, hsaved⟩, built, hbuilt, hlast⟩ := (savedFrom_writes htree).mp hwrites
    obtain ⟨base, _, hbase, _⟩ := hin.found.walk
    have hregular := hsaved.regular htree
    have hstamped := (effect_stampManifests htree hbase
      (fun place hplace => hin.found.isRoute htree hplace) (hin.found.nodup htree)).mpr
        ⟨inputs.manifests, ⟨rfl, hin.manifests⟩, rfl, saved, hsaved⟩
    have hpaths := (FileTree.walk_eq_ok htree hbase).mpr ⟨_, hin.found, rfl⟩
    exact ⟨version, tree, ⟨inputs.version, hin.version, hversion, rfl⟩, (), tree, rfl, _, tree,
      ⟨inputs.build, hin.build, rfl, rfl⟩, _, tree, ⟨inputs.pipeline, hin.pipeline, rfl, rfl⟩,
      _, tree, ⟨hpaths, rfl⟩, _, stamped, hstamped, (), stamped, rfl, (), built,
      (Template.effect_write hregular).mpr hbuilt, (), after,
      (Template.effect_write (regular_of_saved hregular hbuilt)).mpr hlast, rfl, rfl⟩

instance (project : Project) (answer : String → String → Except Error String) :
    OnTree (project.updateAll (.table answer)) :=
  inferInstanceAs (OnTree (project.writeDockerfiles >>= fun _ =>
    project.writeInstaller (.table answer)))

theorem effect_updateAll (htree : Regular tree) (hbase : Enters tree project.layout.root base)
    (hplain : project.PlainNames) {value : Unit} :
    (project.updateAll (.table answer)).effect tree = (.ok value, after) ↔
      ∃ inputs : ImageInputs, inputs.In project answer tree ∧
        SavedFrom tree 0 (under project.layout.root (inputs.writes project)) after := by
  have hinstaller := Layout.isSource_fixed Layout.installerTemplateRoute (by simp)
  have hwritten : ∀ {templates : List (Platform × String)},
      Answered (fun platform => Holds tree project.layout.root
        (Layout.dockerfileTemplateRoute platform)) project.config.platforms templates →
      ∀ write ∈ project.dockerfiles templates, IsWritten write.1 := by
    intro templates htemplates write hwrite
    obtain ⟨template, htemplate, rfl⟩ := List.mem_map.mp hwrite
    exact (Layout.isOutput_dockerfileRoute (hplain _ (htemplates.mem htemplate))).isWritten
  unfold updateAll
  simp only [effect_bind, effect_writeDockerfiles htree, ImageInputs.writes,
    FileTree.savedFrom_under_append htree (Nat.zero_le _)]
  constructor
  · rintro ⟨_, between, ⟨templates, htemplates, saved, hsaved, hopen⟩, hwrite⟩
    obtain ⟨text, hashes, htext, hhashes, hlast⟩ :=
      (effect_writeInstaller (hsaved.regular htree)).mp hwrite
    rw [holds_source htree hbase hsaved (hwritten htemplates) hinstaller] at htext
    exact ⟨⟨templates, text, hashes⟩, ⟨htemplates, htext, hhashes⟩, between,
      ⟨saved, hsaved, hopen⟩, hlast⟩
  · rintro ⟨inputs, hin, between, ⟨saved, hsaved, hopen⟩, hlast⟩
    have htext := (holds_source htree hbase hsaved (hwritten hin.dockerfiles) hinstaller).mpr
      hin.installer
    exact ⟨(), between, ⟨inputs.dockerfiles, hin.dockerfiles, saved, hsaved, hopen⟩,
      (effect_writeInstaller (hsaved.regular htree)).mpr
        ⟨inputs.installer, inputs.hashes, htext, hin.hashes, hlast⟩⟩

theorem run_eq (project : Project) (source : Checksum.Source) : project.run source =
    (project.updateVersions >>= fun version =>
      project.updateAll source >>= fun _ => pure version) := rfl

instance (project : Project) (answer : String → String → Except Error String) :
    OnTree (project.run (.table answer)) := by
  rw [run_eq]
  infer_instance

theorem effect_run (htree : Regular tree) (hplain : project.PlainNames) :
    (project.run (.table answer)).effect tree = (.ok version, after) ↔
      ∃ inputs : Inputs, inputs.In project answer tree ∧
        versionOf project.layout.versionFile inputs.versions.version = .ok version ∧
        SavedFrom tree inputs.versions.manifests.length
          (under project.layout.root (inputs.writes project version)) after := by
  have hcount : ∀ inputs : Inputs, inputs.versions.manifests.length ≤
      (inputs.versions.writes project version).length := by
    intro inputs
    simp [VersionInputs.writes, stamped]
  rw [run_eq]
  simp only [effect_bind, effect_updateVersions htree, effect_pure, Inputs.writes,
    FileTree.savedFrom_under_append htree (hcount _)]
  constructor
  · rintro ⟨_, between, ⟨versions, hversions, hversion, saved, hsaved, hopen⟩, _, _, hrest, rfl,
      rfl⟩
    obtain ⟨base, _, hbase, _⟩ := hversions.found.walk
    obtain ⟨images, himages, hlast⟩ := (effect_updateAll (hsaved.regular htree)
      ((hsaved.grown htree).enters hbase) hplain).mp hrest
    have hkeeps := keepsTemplates htree hbase hsaved (hversions.isWritten htree version)
    exact ⟨⟨versions, images⟩, ⟨hversions, himages.congr hplain hkeeps.2⟩, hversion, between,
      ⟨saved, hsaved, hopen⟩, hlast⟩
  · rintro ⟨⟨versions, images⟩, ⟨hversions, himages⟩, hversion, between, ⟨saved, hsaved, hopen⟩,
      hlast⟩
    obtain ⟨base, _, hbase, _⟩ := hversions.found.walk
    have hkeeps := keepsTemplates htree hbase hsaved (hversions.isWritten htree version)
    exact ⟨version, between, ⟨versions, hversions, hversion, saved, hsaved, hopen⟩, (), after,
      (effect_updateAll (hsaved.regular htree) ((hsaved.grown htree).enters hbase) hplain).mpr
        ⟨images, himages.congr hplain hkeeps.1, hlast⟩, rfl, rfl⟩

end ReleaseStamp.Project
