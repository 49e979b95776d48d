import ReleaseStamp.Proofs.Project.Image
import ReleaseStamp.Proofs.Project.Version

/-!
# The inputs of a run

What a run reads, and what it writes for that. What is written is no input again, but for the
manifests: these are found at the same places and hold the version.
-/
namespace ReleaseStamp.Project

open FileTree (Regular Saved SavedAll Place under Enters IsRoute Holds Found manifestName)
open Layout (IsSource IsWritten IsOutput)
open Job (Answered)

variable {project : Project} {tree before after : FileTree} {base : Place}
  {text version : String} {answer : String → String → Except Error String}

structure VersionInputs where
  version : String
  build : String
  pipeline : String
  manifests : List (Place × String)

structure VersionInputs.In (inputs : VersionInputs) (project : Project) (tree : FileTree) :
    Prop where
  version : Holds tree project.layout.root Layout.versionRoute inputs.version
  build : Holds tree project.layout.root Layout.buildTemplateRoute inputs.build
  pipeline : Holds tree project.layout.root Layout.pipelineTemplateRoute inputs.pipeline
  found : Found tree project.layout.root (inputs.manifests.map Prod.fst)
  manifests : ∀ manifest ∈ inputs.manifests, Holds tree project.layout.root manifest.1 manifest.2

def VersionInputs.outputs (inputs : VersionInputs) (project : Project) (version : String) :
    List (Place × String) :=
  [(Layout.buildRoute, Placeholder.fill inputs.build (project.buildTokens version)),
    (Layout.pipelineRoute, Placeholder.fill inputs.pipeline (project.pipelineTokens version))]

def VersionInputs.writes (inputs : VersionInputs) (project : Project) (version : String) :
    List (Place × String) :=
  stamped version inputs.manifests ++ inputs.outputs project version

structure ImageInputs where
  dockerfiles : List (Platform × String)
  installer : String
  hashes : List (Platform × String)

structure ImageInputs.In (inputs : ImageInputs) (project : Project)
    (answer : String → String → Except Error String) (tree : FileTree) : Prop where
  dockerfiles : Answered (fun platform => Holds tree project.layout.root
    (Layout.dockerfileTemplateRoute platform)) project.config.platforms inputs.dockerfiles
  installer : Holds tree project.layout.root Layout.installerTemplateRoute inputs.installer
  hashes : Answered (fun platform hash =>
    answer project.config.rustupVersion platform.rustTarget = .ok hash)
    project.config.platforms inputs.hashes

def ImageInputs.writes (inputs : ImageInputs) (project : Project) : List (Place × String) :=
  project.dockerfiles inputs.dockerfiles ++
    [(Layout.installerRoute, (project.installer inputs.installer inputs.hashes).inner)]

structure Inputs where
  versions : VersionInputs
  images : ImageInputs

structure Inputs.In (inputs : Inputs) (project : Project)
    (answer : String → String → Except Error String) (tree : FileTree) : Prop where
  versions : inputs.versions.In project tree
  images : inputs.images.In project answer tree

def Inputs.writes (inputs : Inputs) (project : Project) (version : String) :
    List (Place × String) :=
  inputs.versions.writes project version ++ inputs.images.writes project

/-- No platform is named by a path. -/
def PlainNames (project : Project) : Prop :=
  ∀ platform ∈ project.config.platforms, '/' ∉ platform.dpkgArch.toList

theorem VersionInputs.isOutput (inputs : VersionInputs) (project : Project) (version : String) :
    ∀ write ∈ inputs.outputs project version, IsOutput write.1 := by
  simp only [outputs, List.forall_mem_cons]
  exact ⟨Layout.isOutput_fixed _ (by simp), Layout.isOutput_fixed _ (by simp), nofun⟩

theorem ImageInputs.In.isOutput {inputs : ImageInputs} (h : inputs.In project answer tree)
    (hplain : project.PlainNames) : ∀ write ∈ inputs.writes project, IsOutput write.1 := by
  intro write hwrite
  rcases List.mem_append.mp hwrite with hwrite | hwrite
  · obtain ⟨template, htemplate, rfl⟩ := List.mem_map.mp hwrite
    exact Layout.isOutput_dockerfileRoute (hplain _ (h.dockerfiles.mem htemplate))
  · rw [List.mem_singleton.mp hwrite]
    exact Layout.isOutput_fixed _ (by simp)

theorem stamped_fst (version : String) (manifests : List (Place × String)) :
    (stamped version manifests).map Prod.fst = manifests.map Prod.fst := by
  simp [stamped]

theorem VersionInputs.In.isWritten {inputs : VersionInputs} (h : inputs.In project tree)
    (htree : Regular tree) (version : String) :
    ∀ write ∈ inputs.writes project version, IsWritten write.1 := by
  intro write hwrite
  rcases List.mem_append.mp hwrite with hwrite | hwrite
  · obtain ⟨manifest, hmanifest, rfl⟩ := List.mem_map.mp hwrite
    have hplace := List.mem_map_of_mem (f := Prod.fst) hmanifest
    obtain ⟨base, _, hbase, _⟩ := h.found.walk
    exact ⟨h.found.isRoute htree hplace, fun _ => ((h.found.mem_iff htree hbase).mp hplace).2.1⟩
  · exact (inputs.isOutput project version write hwrite).isWritten

variable {writes : List (Place × String)} {saved : List Place}

/-- Whatever is written, the version file and the templates stay. -/
theorem holds_source (hbefore : Regular before) (hbase : Enters before project.layout.root base)
    (hsaved : SavedAll before (under project.layout.root writes) saved after)
    (hwritten : ∀ write ∈ writes, IsWritten write.1) {route : Place} (hsource : IsSource route) :
    Holds after project.layout.root route text ↔ Holds before project.layout.root route text := by
  refine hsaved.holds_other hbefore hbase (fun write hwrite => (hwritten write hwrite).isRoute)
    hsource.isRoute ?_
  intro hmem
  obtain ⟨write, hwrite, hroute⟩ := List.mem_map.mp hmem
  exact (hwritten write hwrite).ne_source hsource hroute.symm

/-- Every template holds what it has held. -/
def KeepsTemplates (project : Project) (before after : FileTree) : Prop :=
  ∀ route text, IsSource route → route ≠ Layout.versionRoute →
    Holds before project.layout.root route text → Holds after project.layout.root route text

theorem keepsTemplates (hbefore : Regular before)
    (hbase : Enters before project.layout.root base)
    (hsaved : SavedAll before (under project.layout.root writes) saved after)
    (hwritten : ∀ write ∈ writes, IsWritten write.1) :
    project.KeepsTemplates before after ∧ project.KeepsTemplates after before := by
  constructor
  · intro route text hsource _
    exact (holds_source hbefore hbase hsaved hwritten hsource).mpr
  · intro route text hsource _
    exact (holds_source hbefore hbase hsaved hwritten hsource).mp

theorem ImageInputs.In.congr {inputs : ImageInputs} (h : inputs.In project answer before)
    (hplain : project.PlainNames) (hkeeps : project.KeepsTemplates before after) :
    inputs.In project answer after := by
  refine ⟨h.dockerfiles.congr ?_, ?_, h.hashes⟩
  · intro template htemplate
    have hsource := Layout.isSource_dockerfileTemplateRoute
      (hplain _ (h.dockerfiles.mem htemplate))
    exact hkeeps _ _ hsource (by simp [Layout.dockerfileTemplateRoute, Layout.versionRoute])
  · exact hkeeps _ _ (Layout.isSource_fixed _ (by simp)) (by decide) h.installer

theorem VersionInputs.In.congr {inputs : VersionInputs} (h : inputs.In project before)
    (hkeeps : project.KeepsTemplates before after) {version : String}
    (hversion : Holds after project.layout.root Layout.versionRoute version)
    {manifests : List (Place × String)}
    (hfound : Found after project.layout.root (manifests.map Prod.fst))
    (hmanifests : ∀ manifest ∈ manifests, Holds after project.layout.root manifest.1 manifest.2) :
    VersionInputs.In { inputs with version, manifests } project after := by
  refine ⟨hversion, ?_, ?_, hfound, hmanifests⟩
  · exact hkeeps _ _ (Layout.isSource_fixed _ (by simp)) (by decide) h.build
  · exact hkeeps _ _ (Layout.isSource_fixed _ (by simp)) (by decide) h.pipeline

/-- Where no manifest is written, the manifests are found again and hold what they have held. -/
theorem VersionInputs.In.manifests_stay {inputs : VersionInputs} (h : inputs.In project before)
    (hbefore : Regular before)
    (hsaved : SavedAll before (under project.layout.root writes) saved after)
    (hroutes : ∀ write ∈ writes, IsRoute write.1)
    (hlast : ∀ write ∈ writes, write.1.getLast? ≠ some manifestName) :
    Found after project.layout.root (inputs.manifests.map Prod.fst) ∧
      ∀ manifest ∈ inputs.manifests, Holds after project.layout.root manifest.1 manifest.2 := by
  obtain ⟨base, _, hbase, _⟩ := h.found.walk
  constructor
  · refine h.found.savedAll hbefore hsaved hroutes ?_
    intro write hwrite hname
    exact absurd hname (hlast write hwrite)
  · intro manifest hmanifest
    have hplace := List.mem_map_of_mem (f := Prod.fst) hmanifest
    refine (hsaved.holds_other hbefore hbase hroutes (h.found.isRoute hbefore hplace) ?_).mpr
      (h.manifests manifest hmanifest)
    intro hmem
    obtain ⟨write, hwrite, hroute⟩ := List.mem_map.mp hmem
    refine hlast write hwrite ?_
    rw [hroute]
    exact ((h.found.mem_iff hbefore hbase).mp hplace).2.1

/-- Outputs that are no manifests leave the inputs of the versions as they are. -/
theorem VersionInputs.In.savedAll {inputs : VersionInputs} (h : inputs.In project before)
    (hbefore : Regular before)
    (hsaved : SavedAll before (under project.layout.root writes) saved after)
    (houtput : ∀ write ∈ writes, IsOutput write.1) : inputs.In project after := by
  obtain ⟨base, _, hbase, _⟩ := h.found.walk
  have hwritten := fun write hwrite => (houtput write hwrite).isWritten
  have hversion := (holds_source hbefore hbase hsaved hwritten
    (Layout.isSource_fixed _ (by simp))).mpr h.version
  obtain ⟨hfound, hmanifests⟩ := h.manifests_stay hbefore hsaved
    (fun write hwrite => (houtput write hwrite).isRoute)
    (fun write hwrite => (houtput write hwrite).last)
  exact h.congr (keepsTemplates hbefore hbase hsaved hwritten).1 hversion hfound hmanifests

def VersionInputs.stamp (inputs : VersionInputs) (version : String) : VersionInputs :=
  { inputs with manifests := stamped version inputs.manifests }

theorem VersionInputs.In.stamped {inputs : VersionInputs} (h : inputs.In project before)
    (hbefore : Regular before)
    (hsaved : SavedAll before
      (under project.layout.root (Project.stamped version inputs.manifests)) saved after) :
    (inputs.stamp version).In project after := by
  obtain ⟨base, _, hbase, _⟩ := h.found.walk
  have hwritten : ∀ write ∈ Project.stamped version inputs.manifests, IsWritten write.1 :=
    fun write hwrite => h.isWritten hbefore version write (List.mem_append_left _ hwrite)
  have hroutes := fun write hwrite => (hwritten write hwrite).isRoute
  have hplaces := stamped_fst version inputs.manifests
  have hversion := (holds_source hbefore hbase hsaved hwritten
    (Layout.isSource_fixed _ (by simp))).mpr h.version
  refine h.congr (keepsTemplates hbefore hbase hsaved hwritten).1 hversion ?_ ?_
  · rw [hplaces]
    refine h.found.savedAll hbefore hsaved hroutes ?_
    intro write hwrite _
    rw [← hplaces]
    exact List.mem_map_of_mem hwrite
  · intro manifest hmanifest
    refine hsaved.holds_written hbefore hbase hroutes ?_ hmanifest
    rw [hplaces]
    exact h.found.nodup hbefore

def Inputs.stamp (inputs : Inputs) (version : String) : Inputs :=
  { inputs with versions := inputs.versions.stamp version }

def Inputs.release (inputs : Inputs) (text : String) : Inputs :=
  { inputs with versions := { inputs.versions with version := text } }

theorem Inputs.In.isWritten {inputs : Inputs} (h : inputs.In project answer tree)
    (htree : Regular tree) (hplain : project.PlainNames) (version : String) :
    ∀ write ∈ inputs.writes project version, IsWritten write.1 := by
  intro write hwrite
  rcases List.mem_append.mp hwrite with hwrite | hwrite
  · exact h.versions.isWritten htree version write hwrite
  · exact (h.images.isOutput hplain write hwrite).isWritten

/-- A run leaves its inputs as they are, but for the manifests. -/
theorem Inputs.In.savedAll {inputs : Inputs} (h : inputs.In project answer before)
    (hbefore : Regular before) (hplain : project.PlainNames)
    (hsaved : SavedAll before (under project.layout.root (inputs.writes project version)) saved
      after) : (inputs.stamp version).In project answer after := by
  obtain ⟨base, _, hbase, _⟩ := h.versions.found.walk
  have hsplit : ∃ saved, SavedAll before (under project.layout.root
      (stamped version inputs.versions.manifests ++ (inputs.versions.outputs project version ++
        inputs.images.writes project))) saved after := by
    rw [← List.append_assoc]
    exact ⟨saved, hsaved⟩
  obtain ⟨between, ⟨_, hfirst⟩, _, hrest⟩ := FileTree.savedAll_under_append.mp hsplit
  refine ⟨(h.versions.stamped hbefore hfirst).savedAll (hfirst.regular hbefore) hrest ?_, ?_⟩
  · intro write hwrite
    rcases List.mem_append.mp hwrite with hwrite | hwrite
    · exact inputs.versions.isOutput project version write hwrite
    · exact h.images.isOutput hplain write hwrite
  · exact h.images.congr hplain
      (keepsTemplates hbefore hbase hsaved (h.isWritten hbefore hplain version)).1

/-- Writing the version file changes no other input. -/
theorem Inputs.In.release {inputs : Inputs} (h : inputs.In project answer before)
    (hbefore : Regular before) (hplain : project.PlainNames) {place : Place}
    (hsaved : Saved before project.layout.versionFile text place after) :
    (inputs.release text).In project answer after := by
  obtain ⟨base, _, hbase, _⟩ := h.versions.found.walk
  have hone : SavedAll before (under project.layout.root [(Layout.versionRoute, text)]) [place]
    after := .cons hsaved .nil
  have hversion : IsRoute Layout.versionRoute := (Layout.isSource_fixed _ (by simp)).isRoute
  have hroute : ∀ write ∈ [(Layout.versionRoute, text)], IsRoute write.1 := by
    intro write hwrite
    rw [List.mem_singleton.mp hwrite]
    exact hversion
  have hkeeps : project.KeepsTemplates before after := by
    intro route text' hsource hne
    exact (hsaved.holds_other hbefore hbase hversion hsource.isRoute hne).mpr
  have hlast : ∀ write ∈ [(Layout.versionRoute, text)],
      write.1.getLast? ≠ some manifestName := by
    intro write hwrite
    rw [List.mem_singleton.mp hwrite]
    simp [Layout.versionRoute, manifestName]
  obtain ⟨hfound, hmanifests⟩ := h.versions.manifests_stay hbefore hone hroute hlast
  exact ⟨h.versions.congr hkeeps (hsaved.readText hbefore) hfound hmanifests,
    h.images.congr hplain hkeeps⟩

theorem Inputs.In.unique {inputs inputs' : Inputs} (h : inputs.In project answer tree)
    (h' : inputs'.In project answer tree) : inputs = inputs' := by
  obtain ⟨⟨version, build, pipeline, manifests⟩, dockerfiles, installer, hashes⟩ := inputs
  obtain ⟨⟨version', build', pipeline', manifests'⟩, dockerfiles', installer', hashes'⟩ := inputs'
  obtain ⟨hversions, himages⟩ := h
  obtain ⟨hversions', himages'⟩ := h'
  obtain rfl : version = version' := hversions.version.unique hversions'.version
  obtain rfl : build = build' := hversions.build.unique hversions'.build
  obtain rfl : pipeline = pipeline' := hversions.pipeline.unique hversions'.pipeline
  obtain rfl : installer = installer' := himages.installer.unique himages'.installer
  obtain rfl : dockerfiles = dockerfiles' :=
    himages.dockerfiles.unique himages'.dockerfiles fun _ _ _ => Holds.unique
  obtain rfl : hashes = hashes' := by
    refine himages.hashes.unique himages'.hashes ?_
    intro platform hash hash' hhash hhash'
    exact Except.ok.inj (hhash.symm.trans hhash')
  obtain rfl : manifests = manifests' := by
    have hplaces : manifests.map Prod.fst = manifests'.map Prod.fst :=
      hversions.found.unique hversions'.found
    have hanswered : Answered (Holds tree project.layout.root) (manifests.map Prod.fst) manifests :=
      ⟨rfl, hversions.manifests⟩
    have hanswered' : Answered (Holds tree project.layout.root) (manifests.map Prod.fst)
      manifests' := ⟨hplaces.symm, hversions'.manifests⟩
    exact hanswered.unique hanswered' fun _ _ _ => Holds.unique
  rfl

end ReleaseStamp.Project
