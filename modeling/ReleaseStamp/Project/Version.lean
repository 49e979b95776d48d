import ReleaseStamp.FileTree.Walk
import ReleaseStamp.Image
import ReleaseStamp.Manifest.Bump
import ReleaseStamp.Project.Basic
import ReleaseStamp.Template
import ReleaseStamp.Text.Uppercase

/-!
# The version of a project

The version file rules: its version goes into every manifest, the build script and the pipeline.
All inputs but the manifests are read before anything is written.
-/
namespace ReleaseStamp

def Manifest.stamp (path : Path) (version : String) : Job Bool := do
  let contents ← Job.readText path
  let bumped := Manifest.bump contents version
  if bumped = contents then
    Job.note .debug .manifest (path.shown ++ " is already up to date")
    return false
  Job.writeText path bumped
  Job.note .debug .manifest ("Set version of " ++ path.shown ++ " to " ++ version)
  return true

def Manifest.meet : FileTree.Encounter → Job Path
  | .ok manifest => do
    Job.note .debug .tree ("Found manifest " ++ manifest.shown)
    return manifest
  | .error (path, fault) =>
    throw (.walk ("IO error for operation on " ++ path.shown ++ ": " ++ fault.message))

/-- The manifests that a walk from a path comes across, if it can open every folder on its way. -/
def Manifest.find (path : Path) : Job (List Path) := do
  ((← get).tree.walk path).mapM Manifest.meet

namespace Project

def versionOf (path : Path) (contents : String) : Except Error String :=
  match Text.trim contents.toList with
  | [] => .error (.version (path.shown ++ " is empty"))
  | version => .ok (String.ofList version)

def readVersion (project : Project) : Job String := do
  let path := project.layout.versionFile
  let contents ← Job.readText path
  let version ← MonadExcept.ofExcept (versionOf path contents)
  Job.note .debug .tree ("Project version: " ++ version)
  return version

def buildTokens (project : Project) (version : String) : List (String × String) :=
  [("TAG-NAME", Image.tagName project.config.repoName), ("TAG-VERSION", version)]

def pipelineTokens (project : Project) (version : String) : List (String × String) :=
  project.config.platforms.map fun platform =>
    ("IMAGE-VERSION-" ++ Text.uppercase platform.dpkgArch,
      Image.name project.config.repoName version platform.dpkgArch)

def renderBuildScript (project : Project) (version : String) : Job Template := do
  let template ← Template.load project.layout.buildTemplate
  template.fill "docker-build.sh" (project.buildTokens version)

def renderPipeline (project : Project) (version : String) : Job Template := do
  let template ← Template.load project.layout.pipelineTemplate
  template.fill ".drone.yml" (project.pipelineTokens version)

def stampManifests (version : String) : List Path → Job Nat
  | [] => return 0
  | manifest :: rest => do
    let changed ← Manifest.stamp manifest version
    return changed.toNat + (← stampManifests version rest)

def updateVersions (project : Project) : Job String := do
  let version ← project.readVersion
  Job.note .info .project ("Propagating version " ++ version)
  let buildScript ← project.renderBuildScript version
  let pipeline ← project.renderPipeline version
  let manifests ← Manifest.find project.layout.root
  let changed ← stampManifests version manifests
  Job.note .info .project
    ("Updated " ++ toString changed ++ " of " ++ toString manifests.length ++ " manifests")
  buildScript.write project.layout.buildOutput
  pipeline.write project.layout.pipelineOutput
  return version

end Project

end ReleaseStamp
