import ReleaseStamp.Platform

/-!
# The configuration

Everything that is pinned for a run. The initial values serve for what a configuration file
leaves out.
-/
namespace ReleaseStamp

/-- The platforms that are built for unless a configuration lists its own. -/
def Platform.standard : List Platform :=
  [⟨"amd64", "amd64", "x86_64-unknown-linux-gnu", "ubuntu:20.04"⟩,
    ⟨"arm32v7", "armhf", "armv7-unknown-linux-gnueabihf", "arm32v7/ubuntu:20.04"⟩,
    ⟨"arm64v8", "arm64", "aarch64-unknown-linux-gnu", "arm64v8/ubuntu:20.04"⟩,
    ⟨"i386", "i386", "i686-unknown-linux-gnu", "i386/ubuntu:18.04"⟩]

structure Config where
  repoName : String := "https://github.com/diabloxenon/opencl"
  rustVersion : String := "1.51.0"
  rustupVersion : String := "1.23.1"
  rustupHome : String := "/usr/local/rustup"
  cargoHome : String := "/usr/local/cargo"
  path : String := "/usr/local/cargo/bin:$PATH"
  /-- Where the archive of the checksum files begins. -/
  checksumUrl : String := "https://static.rust-lang.org/rustup/archive"
  platforms : List Platform := Platform.standard
deriving DecidableEq, Repr

instance : Inhabited Config := ⟨{}⟩

end ReleaseStamp
