import ReleaseStamp.Project.Dockerfile
import ReleaseStamp.Project.Installer
import ReleaseStamp.Project.Version

/-!
# Full runs

The images are the Dockerfiles and the installer; a full run sets the versions first.
-/
namespace ReleaseStamp.Project

def updateAll (project : Project) (source : Checksum.Source) : Job Unit := do
  project.writeDockerfiles
  project.writeInstaller source

def run (project : Project) (source : Checksum.Source) : Job String := do
  let version ← project.updateVersions
  project.updateAll source
  return version

end ReleaseStamp.Project
