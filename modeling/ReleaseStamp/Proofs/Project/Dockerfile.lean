import ReleaseStamp.Proofs.FileTree.Made
import ReleaseStamp.Proofs.Project.Inputs

/-!
# Writing Dockerfiles

Every template is read before the first Dockerfile is written. So a template that cannot be read
leaves the tree as it is, and otherwise each platform gets what its own template of the tree before
gives.
-/
namespace ReleaseStamp.Project

open FileTree (Regular SavedAll Place under Enters IsRoute Holds)
open Job (Answered effect_bind_error)

variable {project : Project} {tree before after : FileTree} {base : Place} {error : Error}
  {platform : Platform} {templates : List (Platform × String)}

theorem effect_renderEntry_error (platform : Platform) (error : Error) (after : FileTree) :
    (project.renderEntry platform).effect tree = (.error error, after) ↔
      (∃ fault, tree.readText (project.layout.dockerfileTemplate platform) = .error fault ∧
        error = Job.faultAt (project.layout.dockerfileTemplate platform) fault) ∧ after = tree := by
  unfold renderEntry renderDockerfile
  rw [Job.effect_bind_pure_error, Template.effect_render_error]
  constructor
  · rintro ⟨fault, hfault, rfl, rfl⟩
    exact ⟨⟨fault, hfault, rfl⟩, rfl⟩
  · rintro ⟨⟨fault, hfault, rfl⟩, rfl⟩
    exact ⟨fault, hfault, rfl, rfl⟩

/-- The templates are read in the order of the platforms, and the first that cannot be read is at
fault. -/
theorem effect_writeDockerfiles_unread
    (h : ∃ platform ∈ project.config.platforms, ∀ text,
      tree.readText (project.layout.dockerfileTemplate platform) ≠ .ok text) :
    ∃ front platform back fault, project.config.platforms = front ++ platform :: back ∧
      (∀ other ∈ front, ∃ text,
        tree.readText (project.layout.dockerfileTemplate other) = .ok text) ∧
      tree.readText (project.layout.dockerfileTemplate platform) = .error fault ∧
      project.writeDockerfiles.effect tree =
        (.error (Job.faultAt (project.layout.dockerfileTemplate platform) fault), tree) := by
  obtain ⟨unread, hunread, hnone⟩ := h
  cases hrendered : (project.config.platforms.mapM project.renderEntry).effect tree with
  | mk outcome after =>
    cases outcome with
    | ok rendered =>
      obtain ⟨templates, htemplates, _, _⟩ := (Job.effect_mapM effect_renderEntry).mp hrendered
      obtain ⟨text, _, htext⟩ := htemplates.exists_given hunread
      exact absurd htext (hnone text)
    | error error =>
      have hstop := (Job.effect_mapM_error effect_renderEntry effect_renderEntry_error).mp hrendered
      obtain ⟨front, platform, back, hsplit, hfront, ⟨fault, hfault, rfl⟩, rfl⟩ := hstop
      refine ⟨front, platform, back, fault, hsplit, hfront, hfault, ?_⟩
      rw [writeDockerfiles_eq]
      exact effect_bind_error.mpr (Or.inl hrendered)

theorem isRoute_dockerfiles (hplain : project.PlainNames)
    (htemplates : templates.map Prod.fst = project.config.platforms) :
    ∀ write ∈ project.dockerfiles templates, IsRoute write.1 := by
  intro write hwrite
  obtain ⟨template, htemplate, rfl⟩ := List.mem_map.mp hwrite
  have hplatform : template.1 ∈ project.config.platforms :=
    htemplates ▸ List.mem_map_of_mem htemplate
  exact (Layout.isOutput_dockerfileRoute (hplain _ hplatform)).isRoute

/-- Platforms of different architectures have different Dockerfiles. -/
theorem nodup_dockerfiles (honce : (project.config.platforms.map Platform.dpkgArch).Nodup)
    (htemplates : templates.map Prod.fst = project.config.platforms) :
    ((project.dockerfiles templates).map Prod.fst).Nodup := by
  have hroutes : (project.dockerfiles templates).map Prod.fst =
      (project.config.platforms.map Platform.dpkgArch).map
        fun arch => (["helpers", "docker", ("Dockerfile-" ++ arch : String)] : Place) := by
    rw [← htemplates, dockerfiles, List.map_map, List.map_map, List.map_map]
    rfl
  rw [hroutes]
  refine List.Pairwise.map _ ?_ honce
  intro arch other hne hsame
  exact hne (by simpa using hsame)

/-- Of the folders on the way to a Dockerfile only the last one may be missing. -/
theorem way_dockerfileRoute (htree : Regular tree) (hbase : Enters tree project.layout.root base)
    (hplain : '/' ∉ platform.dpkgArch.toList) {text : String}
    (htext : Holds tree project.layout.root (Layout.dockerfileTemplateRoute platform) text)
    {way : Place} (hway : way <+: Layout.dockerfileRoute platform)
    (hnone : tree.root.contentAt (base ++ way) = none) :
    way = ["helpers", "docker"] ∨ way = Layout.dockerfileRoute platform := by
  have hroute := (Layout.isSource_dockerfileTemplateRoute hplain).isRoute
  obtain ⟨_, _, hfile⟩ := (FileTree.readText_below_iff htree hbase hroute).mp htext
  have hsplit : Layout.dockerfileTemplateRoute platform =
      (["helpers"] : Place) ++ (Layout.dockerfileTemplateRoute platform).tail := rfl
  have hhelpers : tree.root.contentAt (base ++ (["helpers"] : Place)) = some .folder := by
    rw [hsplit, ← List.append_assoc] at hfile
    exact FileTree.contentAt_of_append hfile (List.cons_ne_nil _ _)
  have hfolder : tree.root.contentAt base = some .folder := hbase.isFolder htree
  simp only [Layout.dockerfileRoute, List.prefix_cons_iff, List.prefix_nil] at hway
  rcases hway with rfl | ⟨_, rfl, rfl | ⟨_, rfl, rfl | ⟨_, rfl, rfl⟩⟩⟩
  · rw [List.append_nil, hfolder] at hnone
    cases hnone
  · rw [hhelpers] at hnone
    cases hnone
  · exact Or.inl rfl
  · exact Or.inr rfl

/-- Nothing changes but the Dockerfiles, and a folder for them that is missing. -/
theorem changed_dockerfiles (hbefore : Regular before) (hplain : project.PlainNames)
    (htemplates : Answered (fun platform => Holds before project.layout.root
      (Layout.dockerfileTemplateRoute platform)) project.config.platforms templates)
    {saved : List Place}
    (hsaved : SavedAll before (under project.layout.root (project.dockerfiles templates)) saved
      after) {place : Place}
    (hchanged : after.root.contentAt place ≠ before.root.contentAt place) :
    ∃ base, Enters before project.layout.root base ∧
      ((∃ platform ∈ project.config.platforms, place = base ++ Layout.dockerfileRoute platform) ∨
        place = base ++ (["helpers", "docker"] : Place) ∧ before.root.contentAt place = none ∧
          after.root.contentAt place = some .folder) := by
  have hroutes := isRoute_dockerfiles hplain htemplates.asked
  have hbase : ∃ base, Enters before project.layout.root base := by
    cases templates with
    | nil =>
      cases hsaved
      exact absurd rfl hchanged
    | cons template templates =>
      have hplatform := htemplates.mem List.mem_cons_self
      exact (htemplates.given template List.mem_cons_self).enters hbefore
        (Layout.isSource_dockerfileTemplateRoute (hplain _ hplatform)).isRoute
  obtain ⟨base, hbase⟩ := hbase
  refine ⟨base, hbase, ?_⟩
  by_cases hplace : place ∈ saved
  · rw [hsaved.places_under hbefore hbase hroutes] at hplace
    obtain ⟨_, hwrite, rfl⟩ := List.mem_map.mp hplace
    obtain ⟨template, htemplate, rfl⟩ := List.mem_map.mp hwrite
    exact Or.inl ⟨template.1, htemplates.mem htemplate, rfl⟩
  · cases hold : before.root.contentAt place with
    | some content =>
      rw [hold, hsaved.kept hbefore hplace hold] at hchanged
      exact absurd rfl hchanged
    | none =>
      rw [hold] at hchanged
      have hfolder := (hsaved.fresh hbefore hplace hold).resolve_left hchanged
      obtain ⟨_, hwrite, way, hway, rfl⟩ :=
        hsaved.newOnWay hbefore hbase hroutes hold hchanged
      obtain ⟨template, htemplate, rfl⟩ := List.mem_map.mp hwrite
      have hplatform := htemplates.mem htemplate
      rcases way_dockerfileRoute hbefore hbase (hplain _ hplatform)
        (htemplates.given template htemplate) hway hold with rfl | rfl
      · exact Or.inr ⟨rfl, rfl, hfolder⟩
      · exact Or.inl ⟨template.1, hplatform, rfl⟩

/-- If a template cannot be read, the first such template in the order of the platforms is at fault
and the tree is as before. If all goes well, each platform has the Dockerfile that is rendered from
the tree before, and nothing else has changed but that the folder of the Dockerfiles has been
made. -/
theorem writeDockerfiles_all_or_nothing (project : Project) {session : Session}
    (hsession : Regular session.tree) (hplain : project.PlainNames)
    (honce : (project.config.platforms.map Platform.dpkgArch).Nodup) :
    ((∃ platform ∈ project.config.platforms, ∀ text,
        session.tree.readText (project.layout.dockerfileTemplate platform) ≠ .ok text) →
      ∃ front platform back fault after, project.config.platforms = front ++ platform :: back ∧
        (∀ other ∈ front, ∃ text,
          session.tree.readText (project.layout.dockerfileTemplate other) = .ok text) ∧
        session.tree.readText (project.layout.dockerfileTemplate platform) = .error fault ∧
        project.writeDockerfiles.perform session =
          (.error (Job.faultAt (project.layout.dockerfileTemplate platform) fault), after) ∧
        after.tree = session.tree) ∧
    ∀ after, project.writeDockerfiles.perform session = (.ok (), after) →
      (∀ platform ∈ project.config.platforms, ∃ rendered,
        (project.renderDockerfile platform).effect session.tree = (.ok rendered, session.tree) ∧
        after.tree.readText (project.layout.dockerfileOutput platform) = .ok rendered.inner) ∧
      after.tree.here = session.tree.here ∧ after.tree.sealed = session.tree.sealed ∧
      ∀ place, after.tree.root.contentAt place ≠ session.tree.root.contentAt place →
        ∃ base, Enters session.tree project.layout.root base ∧
          ((∃ platform ∈ project.config.platforms,
              place = base ++
                (["helpers", "docker", ("Dockerfile-" ++ platform.dpkgArch : String)] :
                Place)) ∨
            place = base ++ (["helpers", "docker"] : Place) ∧
              session.tree.root.contentAt place = none ∧
              after.tree.root.contentAt place = some .folder) := by
  constructor
  · intro hunread
    obtain ⟨front, platform, back, fault, hsplit, hfront, hfault, heffect⟩ :=
      effect_writeDockerfiles_unread hunread
    obtain ⟨after, hperform, hsame⟩ := Job.perform_of_effect heffect
    exact ⟨front, platform, back, fault, after, hsplit, hfront, hfault, hperform, hsame⟩
  · intro after h
    obtain ⟨templates, htemplates, saved, hsaved, _⟩ :=
      (effect_writeDockerfiles hsession).mp (Job.effect_eq h)
    have hgrown := hsaved.grown hsession
    refine ⟨?_, hgrown.here, hgrown.sealed, ?_⟩
    · intro platform hplatform
      obtain ⟨text, hmem, htext⟩ := htemplates.exists_given hplatform
      have hroute := (Layout.isSource_dockerfileTemplateRoute (hplain _ hplatform)).isRoute
      obtain ⟨base, hbase⟩ := htext.enters hsession hroute
      have hwrite : (Layout.dockerfileRoute platform, (project.dockerfile platform text).inner) ∈
          project.dockerfiles templates := List.mem_map_of_mem hmem
      have hwritten := hsaved.holds_written hsession hbase
        (isRoute_dockerfiles hplain htemplates.asked) (nodup_dockerfiles honce htemplates.asked)
        hwrite
      exact ⟨_, effect_renderDockerfile.mpr ⟨text, htext, rfl, rfl⟩, hwritten⟩
    · intro place hchanged
      exact changed_dockerfiles hsession hplain htemplates hsaved hchanged

def pair : Project where
  config := { platforms := [⟨"amd64", "amd64", "x86_64-linux", "ubuntu"⟩,
    ⟨"arm64v8", "arm64", "aarch64-linux", "debian"⟩] }
  layout := ⟨"repo"⟩

def pairTree (templates : List (Path × FileTree.Node)) : FileTree where
  root := .folder [("repo", .folder [("helpers", .folder [("templates", .folder [
    ("dockerfiles", .folder templates)])])])]

def halfTree : FileTree := pairTree [("Dockerfile-amd64.temp", .file "FROM %%BASE%%".toUTF8)]

def wholeTree : FileTree := pairTree [("Dockerfile-amd64.temp", .file "FROM %%BASE%%".toUTF8),
  ("Dockerfile-arm64.temp", .file "FROM %%BASE%%:%%RUST-VERSION%%".toUTF8)]

theorem writeDockerfiles_all_or_nothing_pair :
    Regular halfTree ∧ Regular wholeTree ∧ pair.PlainNames ∧
    (pair.config.platforms.map Platform.dpkgArch).Nodup ∧
    (∃ platform ∈ pair.config.platforms, ∀ text,
      halfTree.readText (pair.layout.dockerfileTemplate platform) ≠ .ok text) ∧
    (∃ platform fault after, pair.writeDockerfiles.perform { tree := halfTree } =
      (.error (Job.faultAt (pair.layout.dockerfileTemplate platform) fault), after) ∧
      after.tree = halfTree) ∧
    ∃ after, pair.writeDockerfiles.perform { tree := wholeTree } = (.ok (), after) ∧
      ∀ platform ∈ pair.config.platforms, ∃ rendered,
        (pair.renderDockerfile platform).effect wholeTree = (.ok rendered, wholeTree) ∧
        after.tree.readText (pair.layout.dockerfileOutput platform) = .ok rendered.inner := by
  have hhalf : Regular halfTree := by
    refine ⟨?_, ?_, rfl⟩
    · simp only [halfTree, pairTree, FileTree.Node.Proper, FileTree.ProperChildren]
      decide +kernel
    · simp [halfTree, pairTree, FileTree.Node.Linkless, FileTree.LinklessChildren]
  have hwhole : Regular wholeTree := by
    refine ⟨?_, ?_, rfl⟩
    · simp only [wholeTree, pairTree, FileTree.Node.Proper, FileTree.ProperChildren,
        List.forall_mem_cons]
      decide +kernel
    · simp [wholeTree, pairTree, FileTree.Node.Linkless, FileTree.LinklessChildren]
  have hplain : pair.PlainNames := by
    simp only [PlainNames, pair, List.forall_mem_cons]
    decide
  have honce : (pair.config.platforms.map Platform.dpkgArch).Nodup := by decide
  have hunread : ∃ platform ∈ pair.config.platforms, ∀ text,
      halfTree.readText (pair.layout.dockerfileTemplate platform) ≠ .ok text := by
    refine ⟨⟨"arm64v8", "arm64", "aarch64-linux", "debian"⟩, by decide, ?_⟩
    have hmissing : halfTree.readText "repo/helpers/templates/dockerfiles/Dockerfile-arm64.temp" =
        .error .missing := by decide +kernel
    intro text htext
    cases hmissing.symm.trans htext
  have hwritten : (pair.writeDockerfiles.perform { tree := wholeTree }).1 = .ok () := by
    decide +kernel
  obtain ⟨after, hperform⟩ := Job.perform_of_fst hwritten
  obtain ⟨_, platform, _, fault, stopped, _, _, _, hstop, hsame⟩ :=
    (@writeDockerfiles_all_or_nothing pair { tree := halfTree } hhalf hplain honce).1 hunread
  have hholds :=
    (@writeDockerfiles_all_or_nothing pair { tree := wholeTree } hwhole hplain honce).2 after
      hperform
  exact ⟨hhalf, hwhole, hplain, honce, hunread, ⟨platform, fault, stopped, hstop, hsame⟩, after,
    hperform, hholds.1⟩

end ReleaseStamp.Project
