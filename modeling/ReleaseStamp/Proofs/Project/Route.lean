import ReleaseStamp.Layout
import ReleaseStamp.Proofs.FileTree.Found
import ReleaseStamp.Proofs.Text.Bytes

/-!
# The routes of a layout

The files of a layout as places below the root of the project. No output is an input, manifests
apart, which are both.
-/
namespace ReleaseStamp.Layout

open FileTree (Place IsRoute below manifestName)
open ReleaseStamp.Path (IsName)

def versionRoute : Place := ["VERSION"]

def buildTemplateRoute : Place := ["helpers", "templates", "build.temp"]

def pipelineTemplateRoute : Place := ["helpers", "templates", "drone.temp"]

def installerTemplateRoute : Place := ["helpers", "templates", "add_rust_lang.temp"]

def dockerfileTemplateRoute (platform : Platform) : Place :=
  ["helpers", "templates", "dockerfiles", (dockerfileName platform ++ ".temp" : String)]

def buildRoute : Place := ["helpers", "docker-build.sh"]

def pipelineRoute : Place := [".drone.yml"]

def installerRoute : Place := ["helpers", "add_rust_lang.sh"]

def dockerfileRoute (platform : Platform) : Place :=
  ["helpers", "docker", dockerfileName platform]

def IsFixed (route : Place) : Prop :=
  route = versionRoute ∨ (["helpers", "templates"] : Place) <+: route

instance (route : Place) : Decidable (IsFixed route) := inferInstanceAs (Decidable (_ ∨ _))

/-- An input that is no manifest. -/
structure IsSource (route : Place) : Prop where
  isRoute : IsRoute route
  fixed : IsFixed route
  last : route.getLast? ≠ some manifestName

/-- An output, a manifest or another one. -/
structure IsWritten (route : Place) : Prop where
  isRoute : IsRoute route
  apart : IsFixed route → route.getLast? = some manifestName

/-- An output that is no manifest. -/
structure IsOutput (route : Place) : Prop where
  isRoute : IsRoute route
  apart : ¬ IsFixed route
  last : route.getLast? ≠ some manifestName

theorem IsOutput.isWritten {route : Place} (h : IsOutput route) : IsWritten route :=
  ⟨h.isRoute, fun hfixed => absurd hfixed h.apart⟩

theorem IsWritten.ne_source {route source : Place} (h : IsWritten route)
    (hsource : IsSource source) : source ≠ route := by
  rintro rfl
  exact hsource.last (h.apart hsource.fixed)

theorem isSource_fixed : ∀ route ∈ [versionRoute, buildTemplateRoute, pipelineTemplateRoute,
    installerTemplateRoute], IsSource route := by
  have hall : ∀ route ∈ [versionRoute, buildTemplateRoute, pipelineTemplateRoute,
      installerTemplateRoute], (route ≠ [] ∧ ∀ name ∈ route, IsName name) ∧ IsFixed route ∧
        route.getLast? ≠ some manifestName := by
    decide +kernel
  intro route hroute
  obtain ⟨⟨hne, hnames⟩, hfixed, hlast⟩ := hall route hroute
  exact ⟨⟨hne, hnames⟩, hfixed, hlast⟩

theorem isRoute_version : IsRoute versionRoute := (isSource_fixed _ (by simp)).isRoute

theorem isOutput_fixed : ∀ route ∈ [buildRoute, pipelineRoute, installerRoute], IsOutput route := by
  have hall : ∀ route ∈ [buildRoute, pipelineRoute, installerRoute],
      (route ≠ [] ∧ ∀ name ∈ route, IsName name) ∧ ¬ IsFixed route ∧
        route.getLast? ≠ some manifestName := by
    decide +kernel
  intro route hroute
  obtain ⟨⟨hne, hnames⟩, hapart, hlast⟩ := hall route hroute
  exact ⟨⟨hne, hnames⟩, hapart, hlast⟩

variable {platform : Platform}

theorem head_dockerfileName (platform : Platform) (ending : String) :
    (dockerfileName platform ++ ending).toList.head? = some 'D' := by
  simp [dockerfileName]

theorem isName_dockerfileName (h : '/' ∉ platform.dpkgArch.toList) (ending : String)
    (hending : '/' ∉ ending.toList) : IsName (dockerfileName platform ++ ending : String) := by
  have hhead := head_dockerfileName platform ending
  refine Path.isName_ofString ?_ (by simp [dockerfileName, h, hending]) ?_ ?_
  all_goals
    intro heq
    rw [heq] at hhead
    simp at hhead

theorem dockerfileName_ne_manifestName (platform : Platform) (ending : String) :
    Path.ofString (dockerfileName platform ++ ending) ≠ manifestName := by
  intro heq
  have hhead := head_dockerfileName platform ending
  rw [Path.ofString_inj.mp heq] at hhead
  simp at hhead

theorem isSource_dockerfileTemplateRoute (h : '/' ∉ platform.dpkgArch.toList) :
    IsSource (dockerfileTemplateRoute platform) := by
  have hname := isName_dockerfileName h ".temp" (by decide)
  refine ⟨⟨by simp [dockerfileTemplateRoute], ?_⟩, Or.inr ⟨_, rfl⟩, ?_⟩
  · simp only [dockerfileTemplateRoute, List.forall_mem_cons]
    exact ⟨by decide, by decide, by decide, hname, by simp⟩
  · simpa [dockerfileTemplateRoute] using dockerfileName_ne_manifestName platform ".temp"

theorem isOutput_dockerfileRoute (h : '/' ∉ platform.dpkgArch.toList) :
    IsOutput (dockerfileRoute platform) := by
  have hname := isName_dockerfileName h "" (by simp)
  refine ⟨⟨by simp [dockerfileRoute], ?_⟩, ?_, ?_⟩
  · simp only [dockerfileRoute, List.forall_mem_cons]
    exact ⟨by decide, by decide, by simpa using hname, by simp⟩
  · simp [IsFixed, dockerfileRoute, versionRoute]
  · simpa [dockerfileRoute] using dockerfileName_ne_manifestName platform ""

end ReleaseStamp.Layout
