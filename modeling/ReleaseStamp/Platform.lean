/-!
# Platforms

A platform that images are built for, under the names that the tools involved give it.
-/
namespace ReleaseStamp

structure Platform where
  /-- The label of the image library. -/
  bashbrew : String
  /-- The architecture as the package manager of the image prints it. -/
  dpkgArch : String
  /-- The target triple of the toolchain. -/
  rustTarget : String
  /-- The image that the Dockerfile starts from. -/
  baseImage : String
deriving DecidableEq, Repr, Inhabited

def Platform.compare (a b : Platform) : Ordering :=
  (Ord.compare a.bashbrew b.bashbrew).then <|
  (Ord.compare a.dpkgArch b.dpkgArch).then <|
  (Ord.compare a.rustTarget b.rustTarget).then <|
  Ord.compare a.baseImage b.baseImage

def Platform.sort (platforms : List Platform) : List Platform :=
  platforms.mergeSort fun a b => (a.compare b).isLE

end ReleaseStamp
