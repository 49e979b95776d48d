import ReleaseStamp.Project.Run
import ReleaseStamp.Proofs.Project.Route
import ReleaseStamp.Proofs.Template

/-!
# Writing images

What the Dockerfiles and the installer are made from. Every template of a Dockerfile is read before
the first one is written, and every checksum is there before the installer is.
-/
namespace ReleaseStamp.Project

open FileTree (Regular SavedFrom Place under Holds)
open Job (OnTree effect_bind effect_bind_pure effect_mapM Answered)

variable {project : Project} {tree after : FileTree} {result : Template} {version : String}

def dockerfile (project : Project) (platform : Platform) (text : String) : Template :=
  ⟨Layout.dockerfileName platform, Placeholder.fill text (project.dockerfileTokens platform)⟩

instance (project : Project) (platform : Platform) : OnTree (project.renderDockerfile platform) :=
  inferInstanceAs (OnTree (Template.load _ >>= fun template => template.fill _ _))

theorem effect_renderDockerfile {platform : Platform} :
    (project.renderDockerfile platform).effect tree = (.ok result, after) ↔
      ∃ text, Holds tree project.layout.root (Layout.dockerfileTemplateRoute platform) text ∧
        result = project.dockerfile platform text ∧ after = tree := Template.effect_render

/-- Templates that are written one after the other. -/
theorem effect_writes (htree : Regular tree) {rendered : List (Path × Template)} {value : Unit} :
    (rendered.forM fun entry => entry.2.write entry.1).effect tree = (.ok value, after) ↔
      SavedFrom tree 0 (rendered.map fun entry => (entry.1, entry.2.inner)) after := by
  induction rendered generalizing tree with
  | nil =>
    rw [Job.effect_forM_nil]
    constructor
    · rintro rfl
      exact ⟨[], .nil, List.forall_mem_nil _⟩
    · rintro ⟨saved, hsaved, _⟩
      cases hsaved
      rfl
  | cons entry rendered ih =>
    have hsplit : (entry :: rendered).map (fun entry => (entry.1, entry.2.inner)) =
        [(entry.1, entry.2.inner)] ++ rendered.map fun entry => (entry.1, entry.2.inner) := rfl
    rw [Job.effect_forM_cons, hsplit, FileTree.savedFrom_append htree (Nat.zero_le _)]
    refine exists_congr fun between => ?_
    rw [Template.effect_write htree, FileTree.savedFrom_singleton]
    refine and_congr_right ?_
    rintro ⟨place, hsaved, _⟩
    exact ih (hsaved.writes htree).regular

def renderEntry (project : Project) (platform : Platform) : Job (Path × Template) :=
  project.renderDockerfile platform >>= fun result =>
    pure (project.layout.dockerfileOutput platform, result)

instance (project : Project) (platform : Platform) : OnTree (project.renderEntry platform) :=
  inferInstanceAs (OnTree (_ >>= fun _ => pure _))

theorem effect_renderEntry (platform : Platform) (entry : Path × Template) (after : FileTree) :
    (project.renderEntry platform).effect tree = (.ok entry, after) ↔
      ∃ text, Holds tree project.layout.root (Layout.dockerfileTemplateRoute platform) text ∧
        entry = (project.layout.dockerfileOutput platform, project.dockerfile platform text) ∧
        after = tree := by
  unfold renderEntry
  simp only [effect_bind_pure, effect_renderDockerfile]
  constructor
  · rintro ⟨_, ⟨text, htext, rfl, rfl⟩, rfl⟩
    exact ⟨text, htext, rfl, rfl⟩
  · rintro ⟨text, htext, rfl, rfl⟩
    exact ⟨_, ⟨text, htext, rfl, rfl⟩, rfl⟩

theorem writeDockerfiles_eq (project : Project) : project.writeDockerfiles =
    (project.config.platforms.mapM project.renderEntry >>= fun rendered =>
      rendered.forM fun entry => entry.2.write entry.1) := rfl

instance (project : Project) : OnTree project.writeDockerfiles := by
  rw [writeDockerfiles_eq]
  infer_instance

def dockerfiles (project : Project) (templates : List (Platform × String)) :
    List (Place × String) :=
  templates.map fun template => (Layout.dockerfileRoute template.1,
    (project.dockerfile template.1 template.2).inner)

theorem effect_writeDockerfiles (htree : Regular tree) {value : Unit} :
    project.writeDockerfiles.effect tree = (.ok value, after) ↔ ∃ templates,
      Answered (fun platform => Holds tree project.layout.root
        (Layout.dockerfileTemplateRoute platform)) project.config.platforms templates ∧
      SavedFrom tree 0 (under project.layout.root (project.dockerfiles templates)) after := by
  have hpaths : ∀ templates : List (Platform × String),
      (templates.map fun template => (project.layout.dockerfileOutput template.1,
        project.dockerfile template.1 template.2)).map (fun entry => (entry.1, entry.2.inner)) =
        under project.layout.root (project.dockerfiles templates) := by
    intro templates
    rw [under, dockerfiles, List.map_map, List.map_map]
    rfl
  rw [writeDockerfiles_eq, effect_bind]
  simp only [effect_mapM effect_renderEntry]
  constructor
  · rintro ⟨_, _, ⟨templates, htemplates, rfl, rfl⟩, hwrites⟩
    exact ⟨templates, htemplates, hpaths templates ▸ (effect_writes htree).mp hwrites⟩
  · rintro ⟨templates, htemplates, hsaved⟩
    exact ⟨_, tree, ⟨templates, htemplates, rfl, rfl⟩,
      (effect_writes htree).mpr (hpaths templates ▸ hsaved)⟩

variable {answer : String → String → Except Error String}

theorem perform_fetch (answer : String → String → Except Error String) (version target : String)
    (session : Session) : (Checksum.fetch (.table answer) version target).perform session =
      (answer version target,
        { session with calls := session.calls ++ [(version, target)] }) := by
  unfold Checksum.fetch
  simp [Job.perform_bind]

instance (answer : String → String → Except Error String) (version target : String) :
    OnTree (Checksum.fetch (.table answer) version target) :=
  ⟨fun session => by simp only [Job.effect, perform_fetch]⟩

theorem effect_fetch {target hash : String} :
    (Checksum.fetch (.table answer) version target).effect tree = (.ok hash, after) ↔
      answer version target = .ok hash ∧ after = tree := by
  rw [Job.effect, perform_fetch]
  simp [eq_comm]

theorem archMatch_eq (project : Project) (source : Checksum.Source) : project.archMatch source =
    ((project.config.platforms.mapM fun platform =>
      Checksum.fetch source project.config.rustupVersion platform.rustTarget >>= fun hash =>
        pure (platform, hash)) >>= fun platforms => pure (dispatchBlock platforms)) := rfl

instance (project : Project) (answer : String → String → Except Error String) :
    OnTree (project.archMatch (.table answer)) := by
  rw [archMatch_eq]
  infer_instance

theorem effect_archMatch {block : String} :
    (project.archMatch (.table answer)).effect tree = (.ok block, after) ↔ ∃ hashes,
      Answered (fun platform hash => answer project.config.rustupVersion platform.rustTarget =
        .ok hash) project.config.platforms hashes ∧
      block = dispatchBlock hashes ∧ after = tree := by
  have hfetch : ∀ (platform : Platform) (entry : Platform × String) (after : FileTree),
      (Checksum.fetch (.table answer) project.config.rustupVersion platform.rustTarget >>=
        fun hash => pure (platform, hash) : Job _).effect tree = (.ok entry, after) ↔
        ∃ hash, answer project.config.rustupVersion platform.rustTarget = .ok hash ∧
          entry = (platform, hash) ∧ after = tree := by
    intro platform entry after
    simp only [effect_bind_pure, effect_fetch]
    constructor
    · rintro ⟨hash, ⟨hhash, rfl⟩, rfl⟩
      exact ⟨hash, hhash, rfl, rfl⟩
    · rintro ⟨hash, hhash, rfl, rfl⟩
      exact ⟨hash, ⟨hhash, rfl⟩, rfl⟩
  rw [archMatch_eq, effect_bind_pure]
  simp only [effect_mapM hfetch, List.map_id']
  constructor
  · rintro ⟨_, ⟨_, hhashes, rfl, rfl⟩, rfl⟩
    exact ⟨_, hhashes, rfl, rfl⟩
  · rintro ⟨hashes, hhashes, rfl, rfl⟩
    exact ⟨hashes, ⟨hashes, hhashes, rfl, rfl⟩, rfl⟩

theorem renderInstaller_eq (project : Project) (source : Checksum.Source) :
    project.renderInstaller source = (Template.load project.layout.installerTemplate >>=
      fun template => project.archMatch source >>= fun block =>
        template.fill "add_rust_lang.sh" (project.installerTokens block)) := rfl

def installer (project : Project) (text : String) (hashes : List (Platform × String)) : Template :=
  ⟨"add_rust_lang.sh", Placeholder.fill text (project.installerTokens (dispatchBlock hashes))⟩

instance (project : Project) (answer : String → String → Except Error String) :
    OnTree (project.renderInstaller (.table answer)) := by
  rw [renderInstaller_eq]
  infer_instance

theorem effect_renderInstaller {result : Template} :
    (project.renderInstaller (.table answer)).effect tree = (.ok result, after) ↔ ∃ text hashes,
      Holds tree project.layout.root Layout.installerTemplateRoute text ∧
      Answered (fun platform hash => answer project.config.rustupVersion platform.rustTarget =
        .ok hash) project.config.platforms hashes ∧
      result = project.installer text hashes ∧ after = tree := by
  rw [renderInstaller_eq]
  simp only [effect_bind, Template.effect_load, effect_archMatch, Template.effect_fill]
  constructor
  · rintro ⟨_, _, ⟨text, htext, rfl, rfl⟩, _, _, ⟨hashes, hhashes, rfl, rfl⟩, rfl, rfl⟩
    exact ⟨text, hashes, htext, hhashes, rfl, rfl⟩
  · rintro ⟨text, hashes, htext, hhashes, rfl, rfl⟩
    exact ⟨_, _, ⟨text, htext, rfl, rfl⟩, _, _, ⟨hashes, hhashes, rfl, rfl⟩, rfl, rfl⟩

instance (project : Project) (answer : String → String → Except Error String) :
    OnTree (project.writeInstaller (.table answer)) :=
  inferInstanceAs (OnTree (project.renderInstaller (.table answer) >>= fun installer =>
    installer.write project.layout.installerOutput))

theorem effect_writeInstaller (htree : Regular tree) {value : Unit} :
    (project.writeInstaller (.table answer)).effect tree = (.ok value, after) ↔ ∃ text hashes,
      Holds tree project.layout.root Layout.installerTemplateRoute text ∧
      Answered (fun platform hash => answer project.config.rustupVersion platform.rustTarget =
        .ok hash) project.config.platforms hashes ∧
      SavedFrom tree 0 (under project.layout.root
        [(Layout.installerRoute, (project.installer text hashes).inner)]) after := by
  unfold writeInstaller
  simp only [effect_bind, effect_renderInstaller]
  constructor
  · rintro ⟨_, _, ⟨text, hashes, htext, hhashes, rfl, rfl⟩, hwrite⟩
    exact ⟨text, hashes, htext, hhashes,
      FileTree.savedFrom_singleton.mpr ((Template.effect_write htree).mp hwrite)⟩
  · rintro ⟨text, hashes, htext, hhashes, hsaved⟩
    exact ⟨_, tree, ⟨text, hashes, htext, hhashes, rfl, rfl⟩,
      (Template.effect_write htree).mpr (FileTree.savedFrom_singleton.mp hsaved)⟩

end ReleaseStamp.Project
