import ReleaseStamp.Proofs.Manifest.LastVersion
import ReleaseStamp.Proofs.Project.Run

/-!
# Runs one after the other

A second run finds the inputs of the first one, with the manifests stamped, and writes to the same
places. So only the last version counts: an earlier run leaves nothing that a later one would not
write over, if its version is recognised as one or is the same.
-/
namespace ReleaseStamp.Project

open FileTree (Regular Saved SavedAll SavedFrom under)
open Job (OnTree effect_bind effect_pure effect_writeText)
open Manifest (Inert IsVersion)

variable {project : Project} {tree between after : FileTree} {first second version : String}
  {answer : String → String → Except Error String}

theorem stamped_stamped (hfirst : Inert first.toList)
    (h : IsVersion first.toList ∨ first = second) (manifests : List (FileTree.Place × String)) :
    stamped second (stamped first manifests) = stamped second manifests := by
  rw [stamped, stamped, stamped, List.map_map]
  refine List.map_congr_left fun manifest _ => ?_
  rw [Function.comp_apply, Manifest.bump_bump hfirst h]

/-- After a run for a first version, a second version is written as if there had been no run. -/
theorem Inputs.writes_stamp (hfirst : Inert first.toList)
    (h : IsVersion first.toList ∨ first = second) (inputs : Inputs) (project : Project) :
    (inputs.stamp first).writes project second = inputs.writes project second := by
  have hmanifests := stamped_stamped hfirst h inputs.versions.manifests
  simp only [writes, VersionInputs.writes, stamp, VersionInputs.stamp, VersionInputs.outputs,
    hmanifests]

theorem Inputs.manifests_stamp (inputs : Inputs) (version : String) :
    (inputs.stamp version).versions.manifests.length = inputs.versions.manifests.length :=
  List.length_map _

/-- The places that are written do not depend on the version. -/
theorem Inputs.writes_fst (inputs : Inputs) (project : Project) (first second : String) :
    (inputs.writes project first).map Prod.fst = (inputs.writes project second).map Prod.fst := by
  simp [writes, VersionInputs.writes, VersionInputs.outputs, stamped_fst]

theorem under_fst {path : Path} {writes writes' : List (FileTree.Place × String)}
    (h : writes.map Prod.fst = writes'.map Prod.fst) :
    (under path writes).map Prod.fst = (under path writes').map Prod.fst := by
  have hpaths : ∀ writes : List (FileTree.Place × String),
      (under path writes).map Prod.fst = (writes.map Prod.fst).map (FileTree.below path) := by
    intro writes
    rw [under, List.map_map, List.map_map]
    rfl
  rw [hpaths, hpaths, h]

theorem versionOf_eq_ok {path : Path} {contents : String}
    (h : versionOf path contents = .ok version) :
    version.toList = Text.trim contents.toList := by
  unfold versionOf at h
  split at h
  · cases h
  · cases h
    rw [String.toList_ofList]

theorem effect_run_again (htree : Regular tree) (hplain : project.PlainNames)
    (hinert : Inert version.toList)
    (h : (project.run (.table answer)).effect tree = (.ok version, after)) :
    (project.run (.table answer)).effect after = (.ok version, after) := by
  obtain ⟨inputs, hin, hversion, saved, hsaved, hopen⟩ := (effect_run htree hplain).mp h
  have hagain := hin.savedAll htree hplain hsaved
  obtain ⟨last, hdirect, hlast⟩ := hsaved.overwrite htree rfl (hsaved.admitsAll htree)
  obtain ⟨-, rfl⟩ := hsaved.unique hdirect
  refine (effect_run (hsaved.regular htree) hplain).mpr
    ⟨inputs.stamp version, hagain, hversion, saved, ?_, ?_⟩
  · rw [Inputs.writes_stamp hinert (Or.inr rfl)]
    exact hlast
  · rw [Inputs.manifests_stamp, (hsaved.grown htree).sealed]
    exact hopen

/-- A run settles a project: the next one gives the same version and leaves every file as it is. -/
theorem run_settles (project : Project) (answer : String → String → Except Error String) :
    (∀ manifest version : String, Inert version.toList →
      Manifest.bump (Manifest.bump manifest version) version = Manifest.bump manifest version) ∧
    (project.PlainNames → ∀ (session after : Session) (contents version : String),
      Regular session.tree →
      session.tree.readText project.layout.versionFile = .ok contents →
      Inert (Text.trim contents.toList) →
      (project.run (.table answer)).perform session = (.ok version, after) →
      ∃ again, (project.run (.table answer)).perform after = (.ok version, again) ∧
        again.tree = after.tree) := by
  constructor
  · intro manifest version hinert
    exact Manifest.bump_bump hinert (Or.inr rfl) manifest
  · intro hplain session after contents version hsession hread hinert h
    have heffect := Job.effect_eq h
    obtain ⟨inputs, hin, hversion, _⟩ := (effect_run hsession hplain).mp heffect
    have hcontents : inputs.versions.version = contents := hin.versions.version.unique hread
    have hinert' : Inert version.toList := by
      rw [versionOf_eq_ok hversion, hcontents]
      exact hinert
    exact Job.perform_of_effect (effect_run_again hsession hplain hinert' heffect)

def sample : Project where
  config := { repoName := "a/b", platforms := [⟨"amd64", "amd64", "x86_64-linux", "ubuntu"⟩] }
  layout := ⟨"repo"⟩

def sampleTree (version : String) : FileTree where
  root := .folder [("repo", .folder [
    ("Cargo.toml", .file "[package]\nversion = \"0.1.0\"\n".toUTF8),
    ("VERSION", .file version.toUTF8),
    ("helpers", .folder [("templates", .folder [
      ("add_rust_lang.temp", .file "%%RUST-VERSION%%".toUTF8),
      ("build.temp", .file "%%TAG-VERSION%%".toUTF8),
      ("dockerfiles", .folder [("Dockerfile-amd64.temp", .file "FROM %%BASE%%".toUTF8)]),
      ("drone.temp", .file "%%IMAGE-VERSION-AMD64%%".toUTF8)])])])]

theorem plainNames_sample : sample.PlainNames := by
  intro platform hplatform
  rw [List.mem_singleton.mp hplatform]
  decide

theorem regular_sampleTree (version : String) : Regular (sampleTree version) := by
  refine ⟨?_, ?_, rfl⟩
  · simp only [sampleTree, FileTree.Node.Proper, FileTree.ProperChildren, List.forall_mem_cons]
    decide +kernel
  · simp [sampleTree, FileTree.Node.Linkless, FileTree.LinklessChildren]

def sampleAnswer : String → String → Except Error String := fun _ _ => .ok "cafe"

theorem run_settles_two_parts :
    Inert "2.0".toList ∧ sample.PlainNames ∧ Regular (sampleTree "2.0\n") ∧
    (sampleTree "2.0\n").readText sample.layout.versionFile = .ok "2.0\n" ∧
    Inert (Text.trim "2.0\n".toList) ∧
    Manifest.bump (Manifest.bump "[package]\nversion = \"0.1.0\"\n" "2.0") "2.0" =
      Manifest.bump "[package]\nversion = \"0.1.0\"\n" "2.0" ∧
    ∃ after again, (sample.run (.table sampleAnswer)).perform { tree := sampleTree "2.0\n" } =
        (.ok "2.0", after) ∧
      (sample.run (.table sampleAnswer)).perform after = (.ok "2.0", again) ∧
      again.tree = after.tree := by
  have hinert : Inert "2.0".toList := by constructor <;> decide
  have hread : (sampleTree "2.0\n").readText sample.layout.versionFile = .ok "2.0\n" := by
    decide +kernel
  have hversion : ((sample.run (.table sampleAnswer)).perform { tree := sampleTree "2.0\n" }).1 =
      .ok "2.0" := by decide +kernel
  have hinert' : Inert (Text.trim "2.0\n".toList) := by constructor <;> decide
  obtain ⟨after, hrun⟩ := Job.perform_of_fst hversion
  have hregular := regular_sampleTree "2.0\n"
  have hbump := (run_settles sample sampleAnswer).1 "[package]\nversion = \"0.1.0\"\n" "2.0" hinert
  obtain ⟨again, hagain, htree⟩ := (run_settles sample sampleAnswer).2 plainNames_sample
    { tree := sampleTree "2.0\n" } after "2.0\n" "2.0" hregular hread hinert' hrun
  exact ⟨hinert, plainNames_sample, hregular, hread, hinert', hbump, after, again, hrun, hagain,
    htree⟩

def release (project : Project) (source : Checksum.Source) (contents : String) : Job String := do
  Job.writeText project.layout.versionFile contents
  project.run source

instance (project : Project) (answer : String → String → Except Error String) (contents : String) :
    OnTree (project.release (.table answer) contents) :=
  inferInstanceAs (OnTree (Job.writeText _ _ >>= fun _ => project.run (.table answer)))

theorem effect_release (htree : Regular tree) (hplain : project.PlainNames) {contents : String} :
    (project.release (.table answer) contents).effect tree = (.ok version, after) ↔
      ∃ (written : FileTree) (inputs : Inputs),
        (∃ place, Saved tree project.layout.versionFile contents place written ∧
          place ∉ tree.sealed) ∧
        inputs.In project answer written ∧ inputs.versions.version = contents ∧
        versionOf project.layout.versionFile contents = .ok version ∧
        SavedFrom written inputs.versions.manifests.length
          (under project.layout.root (inputs.writes project version)) after := by
  unfold release
  rw [effect_bind]
  simp only [effect_writeText htree]
  constructor
  · rintro ⟨_, written, ⟨place, hplace, hopen⟩, hrun⟩
    have hregular := (hplace.writes htree).regular
    obtain ⟨inputs, hin, hversion, hsaved⟩ := (effect_run hregular hplain).mp hrun
    have hcontents : inputs.versions.version = contents :=
      hin.versions.version.unique (hplace.readText htree)
    exact ⟨written, inputs, ⟨place, hplace, hopen⟩, hin, hcontents, hcontents ▸ hversion, hsaved⟩
  · rintro ⟨written, inputs, ⟨place, hplace, hopen⟩, hin, rfl, hversion, hsaved⟩
    exact ⟨(), written, ⟨place, hplace, hopen⟩,
      (effect_run (hplace.writes htree).regular hplain).mpr ⟨inputs, hin, hversion, hsaved⟩⟩

theorem regular_release (htree : Regular tree) (hplain : project.PlainNames) {contents : String}
    (h : (project.release (.table answer) contents).effect tree = (.ok version, after)) :
    Regular after := by
  obtain ⟨written, _, ⟨_, hplace, _⟩, _, _, _, _, hsaved, _⟩ := (effect_release htree hplain).mp h
  exact hsaved.regular (hplace.writes htree).regular

/-- A release with another one before it leaves what it would leave without that. -/
theorem release_release (htree : Regular tree) (hplain : project.PlainNames)
    {contents contents' : String} (hversion : IsVersion (Text.trim contents.toList))
    (h : (project.release (.table answer) contents).effect tree = (.ok first, between))
    (h' : (project.release (.table answer) contents').effect between = (.ok second, after)) :
    (project.release (.table answer) contents').effect tree = (.ok second, after) := by
  have hbetween := regular_release htree hplain h
  obtain ⟨written, inputs, ⟨place, hplace, hopen⟩, hin, _, hfirst, saved, hsaved, hrest⟩ :=
    (effect_release htree hplain).mp h
  obtain ⟨written', inputs', ⟨place', hplace', _⟩, hin', _, hsecond, saved', hsaved', _⟩ :=
    (effect_release hbetween hplain).mp h'
  have hwritten := (hplace.writes htree).regular
  rw [← versionOf_eq_ok hfirst] at hversion
  -- The second release finds the inputs of the first, stamped, and so writes over what it wrote.
  have hinputs : inputs' = (inputs.stamp first).release contents' :=
    hin'.unique ((hin.savedAll hwritten hplain hsaved).release hbetween hplain hplace')
  have hwrites : inputs'.writes project second = inputs.writes project second := by
    rw [hinputs]
    exact Inputs.writes_stamp hversion.inert (Or.inl hversion) inputs project
  rw [hwrites] at hsaved'
  have hall : SavedAll tree ((project.layout.versionFile, contents) ::
      under project.layout.root (inputs.writes project first)) (place :: saved) between :=
    .cons hplace hsaved
  have hall' : SavedAll between ((project.layout.versionFile, contents') ::
      under project.layout.root (inputs.writes project second)) (place' :: saved') after :=
    .cons hplace' hsaved'
  have hpaths : ((project.layout.versionFile, contents') ::
      under project.layout.root (inputs.writes project second)).map Prod.fst =
        ((project.layout.versionFile, contents) ::
          under project.layout.root (inputs.writes project first)).map Prod.fst :=
    congrArg (_ :: ·) (under_fst (inputs.writes_fst project second first))
  -- Both go to the same places, and what is sealed there is what it has been.
  have hplaces : place' :: saved' = place :: saved :=
    hall.places_eq htree (.refl between) hbetween hpaths hall'
  have hadmits := (hall.admitsAll_iff htree).mp (hplaces ▸ hall'.admitsAll hbetween)
  obtain ⟨last, hdirect, hlast⟩ := hall.overwrite htree hpaths hadmits
  obtain ⟨-, rfl⟩ := hall'.unique hlast
  cases hdirect with
  | @cons _ direct _ _ _ _ _ _ hversionFile hlater =>
    have hover := hplace.overwrite htree hversionFile
    refine (effect_release htree hplain).mpr ⟨direct, inputs.release contents',
      ⟨place, hversionFile, hopen⟩, hin.release hwritten hplain hover, rfl, hsecond, saved,
      hlater, ?_⟩
    rwa [(hversionFile.writes htree).sealed, ← (hplace.writes htree).sealed]

theorem effect_releases (htree : Regular tree) (hplain : project.PlainNames)
    {earlier : List String}
    (hversions : ∀ contents ∈ earlier, IsVersion (Text.trim contents.toList))
    {last : String} {versions : List String}
    (h : ((earlier ++ [last]).mapM (project.release (.table answer))).effect tree =
      (.ok versions, after)) :
    ∃ version, versions.getLast? = some version ∧
      (project.release (.table answer) last).effect tree = (.ok version, after) := by
  induction earlier generalizing tree versions with
  | nil =>
    rw [List.nil_append, List.mapM_cons, effect_bind] at h
    obtain ⟨version, between, hlast, hnone⟩ := h
    simp only [List.mapM_nil, effect_bind, effect_pure] at hnone
    obtain ⟨_, _, ⟨rfl, rfl⟩, rfl, rfl⟩ := hnone
    exact ⟨version, rfl, hlast⟩
  | cons contents earlier ih =>
    rw [List.cons_append, List.mapM_cons, effect_bind] at h
    obtain ⟨first, between, hfirst, hrest⟩ := h
    simp only [effect_bind, effect_pure] at hrest
    obtain ⟨rest, _, hall, rfl, rfl⟩ := hrest
    rw [List.forall_mem_cons] at hversions
    obtain ⟨version, hversion, hlast⟩ := ih (regular_release htree hplain hfirst) hversions.2 hall
    refine ⟨version, ?_, release_release htree hplain hversions.1 hfirst hlast⟩
    rw [List.getLast?_cons, hversion, Option.getD_some]

/-- Of version files written one after the other, with a run after each, only the last one counts:
the tree is what it would be if no other had been there. -/
theorem last_release_wins (project : Project) (answer : String → String → Except Error String)
    (hplain : project.PlainNames) {session after : Session} (hsession : Regular session.tree)
    {earlier : List String}
    (hversions : ∀ contents ∈ earlier, IsVersion (Text.trim contents.toList))
    {last : String} {versions : List String}
    (h : ((earlier ++ [last]).mapM (project.release (.table answer))).perform session =
      (.ok versions, after)) :
    ∃ version direct, versions.getLast? = some version ∧
      (project.release (.table answer) last).perform session = (.ok version, direct) ∧
      direct.tree = after.tree := by
  obtain ⟨version, hversion, hlast⟩ :=
    effect_releases hsession hplain hversions (Job.effect_eq h)
  obtain ⟨direct, hdirect, htree⟩ := Job.perform_of_effect hlast
  exact ⟨version, direct, hversion, hdirect, htree⟩

theorem last_release_wins_over_number :
    sample.PlainNames ∧ Regular (sampleTree "0.1.0") ∧
    (∀ contents ∈ ["0.2.0\n"], IsVersion (Text.trim contents.toList)) ∧
    ∃ after version direct,
      ((["0.2.0\n"] ++ ["next"]).mapM (sample.release (.table sampleAnswer))).perform
        { tree := sampleTree "0.1.0" } = (.ok ["0.2.0", "next"], after) ∧
      ["0.2.0", "next"].getLast? = some version ∧
      (sample.release (.table sampleAnswer) "next").perform { tree := sampleTree "0.1.0" } =
        (.ok version, direct) ∧ direct.tree = after.tree := by
  have hregular := regular_sampleTree "0.1.0"
  have hversions : ∀ contents ∈ ["0.2.0\n"], IsVersion (Text.trim contents.toList) := by
    decide +kernel
  have hfst : (((["0.2.0\n"] ++ ["next"]).mapM (sample.release (.table sampleAnswer))).perform
      { tree := sampleTree "0.1.0" }).1 = .ok ["0.2.0", "next"] := by decide +kernel
  obtain ⟨after, hreleases⟩ := Job.perform_of_fst hfst
  obtain ⟨version, direct, hlast, hdirect, htree⟩ :=
    last_release_wins sample sampleAnswer plainNames_sample hregular hversions hreleases
  exact ⟨plainNames_sample, hregular, hversions, after, version, direct, hreleases, hlast, hdirect,
    htree⟩

end ReleaseStamp.Project
