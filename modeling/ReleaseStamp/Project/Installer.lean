import ReleaseStamp.Checksum
import ReleaseStamp.Project.Basic
import ReleaseStamp.Template

/-!
# The installer script

The script that installs the pinned toolchain. It picks the target and the checksum by the
architecture that it runs on, in a block with one branch for each platform.
-/
namespace ReleaseStamp.Project

def dispatchOpening : String :=
  "dpkgArch=\"$(dpkg --print-architecture)\"; \n    case \"$\x7bdpkgArch##*-\x7d\" in \n"

def dispatchBranch (platform : Platform) (hash : String) : String :=
  "        " ++ platform.dpkgArch ++ ") rustArch='" ++ platform.rustTarget ++ "'; rustupSha256='"
    ++ hash ++ "' ;; \n"

def dispatchClosing : String :=
  "        *) echo >&2 \"unsupported architecture: $\x7bdpkgArch\x7d\"; exit 1 ;; \n    esac"

def dispatchBlock (platforms : List (Platform × String)) : String :=
  let branches := platforms.map fun (platform, hash) => dispatchBranch platform hash
  dispatchOpening ++ String.join branches ++ dispatchClosing

def archMatch (project : Project) (source : Checksum.Source) : Job String := do
  let platforms ← project.config.platforms.mapM fun platform =>
    return (platform, ← Checksum.fetch source project.config.rustupVersion platform.rustTarget)
  return dispatchBlock platforms

/-- What the placeholders of the installer stand for; the block comes last. -/
def installerTokens (project : Project) (block : String) : List (String × String) :=
  let config := project.config
  [("RUST-VERSION", config.rustVersion), ("RUSTUP-VERSION", config.rustupVersion),
    ("RUSTUP-HOME", config.rustupHome), ("CARGO-HOME", config.cargoHome), ("PATH", config.path),
    ("ARCH-MATCH", block)]

def renderInstaller (project : Project) (source : Checksum.Source) : Job Template := do
  let template ← Template.load project.layout.installerTemplate
  let block ← project.archMatch source
  template.fill "add_rust_lang.sh" (project.installerTokens block)

def writeInstaller (project : Project) (source : Checksum.Source) : Job Unit := do
  let installer ← project.renderInstaller source
  installer.write project.layout.installerOutput

end ReleaseStamp.Project
