import ReleaseStamp.Path
import ReleaseStamp.Platform

/-!
# The layout of a project

Where the inputs of a project are read and its outputs are written, below the root of the project.
-/
namespace ReleaseStamp

structure Layout where
  root : Path
deriving DecidableEq, Repr, Inhabited

namespace Layout

def versionFile (layout : Layout) : Path := Path.join layout.root "VERSION"

def helpers (layout : Layout) : Path := Path.join layout.root "helpers"

def templates (layout : Layout) : Path := Path.join layout.helpers "templates"

def pipelineTemplate (layout : Layout) : Path := Path.join layout.templates "drone.temp"

def pipelineOutput (layout : Layout) : Path := Path.join layout.root ".drone.yml"

def buildTemplate (layout : Layout) : Path := Path.join layout.templates "build.temp"

def buildOutput (layout : Layout) : Path := Path.join layout.helpers "docker-build.sh"

def dockerfileName (platform : Platform) : String := "Dockerfile-" ++ platform.dpkgArch

def dockerfileTemplate (layout : Layout) (platform : Platform) : Path :=
  Path.join (Path.join layout.templates "dockerfiles") (dockerfileName platform ++ ".temp" : String)

def dockerfileOutput (layout : Layout) (platform : Platform) : Path :=
  Path.join (Path.join layout.helpers "docker") (dockerfileName platform)

def installerTemplate (layout : Layout) : Path := Path.join layout.templates "add_rust_lang.temp"

def installerOutput (layout : Layout) : Path := Path.join layout.helpers "add_rust_lang.sh"

end Layout

end ReleaseStamp
