import ReleaseStamp.Project.Basic
import ReleaseStamp.Template

/-!
# Dockerfiles

One Dockerfile for each platform. All of them are rendered before the first is written.
-/
namespace ReleaseStamp.Project

def dockerfileTokens (project : Project) (platform : Platform) : List (String × String) :=
  let config := project.config
  [("BASE", platform.baseImage), ("REPO", config.repoName), ("RUST-VERSION", config.rustVersion),
    ("RUSTUP-VERSION", config.rustupVersion), ("CARGO-HOME", config.cargoHome),
    ("RUSTUP-HOME", config.rustupHome), ("PATH", config.path)]

def renderDockerfile (project : Project) (platform : Platform) : Job Template := do
  let template ← Template.load (project.layout.dockerfileTemplate platform)
  template.fill (Layout.dockerfileName platform) (project.dockerfileTokens platform)

def writeDockerfiles (project : Project) : Job Unit := do
  let rendered ← project.config.platforms.mapM fun platform =>
    return (project.layout.dockerfileOutput platform, ← project.renderDockerfile platform)
  rendered.forM fun (path, dockerfile) => dockerfile.write path

end ReleaseStamp.Project
