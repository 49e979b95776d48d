import ReleaseStamp.Proofs.Image
import ReleaseStamp.Proofs.Placeholder.Replaced
import ReleaseStamp.Proofs.Project.Version

/-!
# The images of the pipeline

The pipeline names one image for each platform. Its placeholders are filled one platform after the
other, and still each of them gets the image of the first platform that it stands for: no image can
be taken for a part of a placeholder.
-/
namespace ReleaseStamp.Project

open Placeholder (IsName Solid Separate Replaced SolidValues Unambiguous isNameChar spelled
  substituteText)

variable {project : Project} {version : String}

/-- In upper case, a character of names is still one. -/
theorem isNameChar_upperChar {c d : Char} (hc : isNameChar c = true)
    (hd : d ∈ Text.upperChar c) : isNameChar d = true := by
  have hall : ∀ n < 128, isNameChar (Char.ofNat n) = true →
      (Text.upperChar (Char.ofNat n)).all isNameChar = true := by decide +kernel
  have hlow : c.toNat < 128 := by
    simp only [isNameChar, Bool.or_eq_true, beq_iff_eq] at hc
    rcases hc with (halnum | rfl) | rfl
    · exact Image.toNat_lt_of_isAlphanum halnum
    · decide
    · decide
  have hupper := hall c.toNat hlow
  rw [Char.ofNat_toNat] at hupper
  exact List.all_eq_true.mp (hupper hc) d hd

def imageToken (platform : Platform) : String :=
  "IMAGE-VERSION-" ++ Text.uppercase platform.dpkgArch

theorem isName_imageToken {platform : Platform} (h : IsName platform.dpkgArch.toList) :
    IsName (imageToken platform).toList := by
  have htoken : (imageToken platform).toList =
      "IMAGE-VERSION-".toList ++ platform.dpkgArch.toList.flatMap Text.upperChar := by
    simp [imageToken, Text.uppercase]
  have hstart : ∀ c ∈ "IMAGE-VERSION-".toList, isNameChar c = true := by decide
  rw [htoken]
  refine ⟨by simp, fun c hc => ?_⟩
  rcases List.mem_append.mp hc with hc | hc
  · exact hstart c hc
  · obtain ⟨d, hd, hupper⟩ := List.mem_flatMap.mp hc
    exact isNameChar_upperChar (h.2 d hd) hupper

/-- The colon of an image is in no name. -/
theorem solid_imageName {repository version architecture : String}
    (hrepository : '%' ∉ repository.toList) (hversion : '%' ∉ version.toList)
    (harchitecture : IsName architecture.toList) :
    Solid (Image.name repository version architecture).toList := by
  have htag : '%' ∉ (Image.tagName repository).toList := by
    rw [Image.tagName, String.toList_ofList]
    exact fun hm => hrepository ((Image.dropHosts_sublist _).subset hm)
  have hname : '%' ∉ architecture.toList := by
    intro hm
    exact absurd (harchitecture.2 '%' hm) (by decide)
  refine ⟨?_, ':', ?_, by decide⟩
  · simp [Image.name, htag, hversion, hname]
  · simp [Image.name]

/-- What the placeholder of that name stands for: the image of the first platform that has it. -/
def imageNamed? (project : Project) (version : String) (name : List Char) : Option (List Char) :=
  (project.config.platforms.find? fun platform => (imageToken platform).toList = name).map
    fun platform => (Image.name project.config.repoName version platform.dpkgArch).toList

theorem lookup_pipelineTokens (project : Project) (version : String) (name : List Char) :
    (spelled (project.pipelineTokens version)).lookup name = project.imageNamed? version name :=
  Placeholder.lookup_spelled_map imageToken _ project.config.platforms name

/-- The architectures are names, and no percent sign comes into an image. -/
structure PlainImages (project : Project) (version : String) : Prop where
  architectures : ∀ platform ∈ project.config.platforms, IsName platform.dpkgArch.toList
  repository : '%' ∉ project.config.repoName.toList
  version : '%' ∉ version.toList

theorem PlainImages.names (h : PlainImages project version) :
    ∀ token ∈ project.pipelineTokens version, IsName token.1.toList := by
  intro token htoken
  obtain ⟨platform, hplatform, rfl⟩ := List.mem_map.mp htoken
  exact isName_imageToken (h.architectures platform hplatform)

theorem PlainImages.values (h : PlainImages project version) :
    ∀ token ∈ project.pipelineTokens version, Solid token.2.toList := by
  intro token htoken
  obtain ⟨platform, hplatform, rfl⟩ := List.mem_map.mp htoken
  exact solid_imageName h.repository h.version (h.architectures platform hplatform)

/-- Platforms with one name are filled one after the other too: the first leaves nothing to fill. -/
theorem PlainImages.toList_fill (h : PlainImages project version) {text : String}
    (htext : Separate text.toList) :
    (Placeholder.fill text (project.pipelineTokens version)).toList =
      substituteText (spelled (project.pipelineTokens version)) text.toList := by
  have hnames : ∀ token ∈ spelled (project.pipelineTokens version), IsName token.1 :=
    List.forall_mem_map.mpr h.names
  have hvalues : SolidValues (spelled (project.pipelineTokens version)) :=
    List.forall_mem_map.mpr h.values
  have hfill := Placeholder.fillText_eq htext hnames hvalues
  rw [← hfill, Placeholder.fill, String.toList_ofList]
  rfl

theorem PlainImages.unambiguous (h : PlainImages project version)
    (honce : (project.config.platforms.map fun platform =>
      Text.uppercase platform.dpkgArch).Nodup) :
    Unambiguous (project.pipelineTokens version) := by
  refine ⟨h.names, ?_, h.values⟩
  have htokens : (project.pipelineTokens version).map Prod.fst =
      (project.config.platforms.map fun platform => Text.uppercase platform.dpkgArch).map
        ("IMAGE-VERSION-" ++ ·) := by
    simp [pipelineTokens]
  rw [htokens]
  exact honce.map fun _ _ heq => by simpa using heq

def withPlatforms (project : Project) (platforms : List Platform) : Project :=
  { project with config := { project.config with platforms } }

theorem perform_renderPipeline {session : Session} {text : String}
    (hread : session.tree.readText project.layout.pipelineTemplate = .ok text) (version : String) :
    (project.renderPipeline version).perform session =
      (Template.fill ⟨Template.nameOf project.layout.pipelineTemplate, text⟩ ".drone.yml"
        (project.pipelineTokens version)).perform session := by
  rw [renderPipeline, Job.perform_bind, Template.perform_load, hread]
  rfl

/-- The order of platforms with names of their own does not matter. -/
theorem PlainImages.fill_perm (h : PlainImages project version) {platforms : List Platform}
    (hperm : platforms.Perm project.config.platforms)
    (honce : (platforms.map fun platform => Text.uppercase platform.dpkgArch).Nodup)
    {text : String} (htext : Separate text.toList) :
    Placeholder.fill text ((project.withPlatforms platforms).pipelineTokens version) =
      Placeholder.fill text (project.pipelineTokens version) := by
  have htokens := h.unambiguous ((hperm.map _).nodup_iff.mp honce)
  have hmoved : ((project.withPlatforms platforms).pipelineTokens version).Perm
      (project.pipelineTokens version) := hperm.map _
  rw [Placeholder.fill_eq htext (htokens.perm hmoved), Placeholder.fill_eq htext htokens,
    htokens.substitute_perm hmoved]

/-- The pipeline is its template with the images of the platforms in it. A placeholder that several
platforms have stands for the image of the first, and any other is kept. So the order of the
platforms does not matter where no two have the same placeholder. -/
theorem renderPipeline_images {project : Project} {version : String}
    (himages : PlainImages project version) {session : Session} {text : String}
    (hread : session.tree.readText project.layout.pipelineTemplate = .ok text)
    (htext : Separate text.toList) :
    (∃ pipeline log, (project.renderPipeline version).perform session =
        (.ok ⟨".drone.yml", pipeline⟩, { session with log }) ∧
      ∀ result, Replaced (project.imageNamed? version) text.toList result ↔
        result = pipeline.toList) ∧
    ∀ platforms, platforms.Perm project.config.platforms →
      (platforms.map fun platform => Text.uppercase platform.dpkgArch).Nodup →
      ((project.withPlatforms platforms).renderPipeline version).perform session =
        (project.renderPipeline version).perform session := by
  constructor
  · have hrender := perform_renderPipeline hread version
    obtain ⟨log, hfill⟩ := Template.perform_fill
      ⟨Template.nameOf project.layout.pipelineTemplate, text⟩ ".drone.yml"
      (project.pipelineTokens version) session
    refine ⟨Placeholder.fill text (project.pipelineTokens version), log, hrender.trans hfill, ?_⟩
    intro result
    rw [himages.toList_fill htext]
    exact Placeholder.replaced_iff (lookup_pipelineTokens project version)
  · intro platforms hperm honce
    have hread' : session.tree.readText (project.withPlatforms platforms).layout.pipelineTemplate =
        .ok text := hread
    rw [perform_renderPipeline hread' version, perform_renderPipeline hread version,
      Template.fill_congr (himages.fill_perm hperm honce htext)]
    rfl

def armProject (architectures : List String) : Project where
  config := {
    repoName := "https://github.com/a/b"
    platforms := architectures.map fun architecture => ⟨"", architecture, "", ""⟩ }
  layout := ⟨"repo"⟩

def armTemplate : String :=
  "%%IMAGE-VERSION-ARM%%%%IMAGE-VERSION-ARM-64%%\n%%IMAGE-VERSION-X%%\n"

def armTree : FileTree where
  root := .folder [("repo", .folder [("helpers", .folder [("templates", .folder [
    ("drone.temp", .file armTemplate.toUTF8)])])])]

theorem plainImages_armProject {architectures : List String}
    (h : ∀ architecture ∈ architectures, IsName architecture.toList) :
    PlainImages (armProject architectures) "2.0" := by
  refine ⟨List.forall_mem_map.mpr h, ?_, by decide⟩
  change '%' ∉ "https://github.com/a/b".toList
  decide

/-- Two platforms share a placeholder, whose name another one begins with. -/
theorem renderPipeline_images_shared_name :
    let shared := armProject ["Arm", "arm", "arm-64"]
    let single := armProject ["arm", "arm-64"]
    let session : Session := { tree := armTree }
    let pipeline := "a/b:2.0-Arma/b:2.0-arm-64\n%%IMAGE-VERSION-X%%\n"
    (PlainImages shared "2.0" ∧ PlainImages single "2.0" ∧
      session.tree.readText shared.layout.pipelineTemplate = .ok armTemplate ∧
      Separate armTemplate.toList) ∧
    (∃ log, (shared.renderPipeline "2.0").perform session =
        (.ok ⟨".drone.yml", pipeline⟩, { session with log }) ∧
      Replaced (shared.imageNamed? "2.0") armTemplate.toList pipeline.toList) ∧
    ((single.withPlatforms single.config.platforms.reverse).renderPipeline "2.0").perform session =
      (single.renderPipeline "2.0").perform session := by
  intro shared single session pipeline
  have hshared : PlainImages shared "2.0" := plainImages_armProject (by decide)
  have hsingle : PlainImages single "2.0" := plainImages_armProject (by decide)
  have hread : session.tree.readText shared.layout.pipelineTemplate = .ok armTemplate := by
    decide +kernel
  have htext : Separate armTemplate.toList := by decide +kernel
  have hvalue : ((shared.renderPipeline "2.0").perform session).1 =
      .ok ⟨".drone.yml", pipeline⟩ := by
    decide +kernel
  have honce : (single.config.platforms.reverse.map fun platform =>
      Text.uppercase platform.dpkgArch).Nodup := by decide +kernel
  obtain ⟨⟨found, log, hrender, hreplaced⟩, -⟩ := renderPipeline_images hshared hread htext
  have hfound : found = pipeline := by
    rw [hrender] at hvalue
    exact congrArg Template.inner (Except.ok.inj hvalue)
  rw [hfound] at hrender hreplaced
  exact ⟨⟨hshared, hsingle, hread, htext⟩, ⟨log, hrender, (hreplaced _).mpr rfl⟩,
    (renderPipeline_images hsingle hread htext).2 _ (List.reverse_perm _) honce⟩

end ReleaseStamp.Project
