/-!
# Faults of file access

Why a path cannot be read, written or walked.
-/
namespace ReleaseStamp.FileTree

inductive Fault where
  | missing
  | occupied
  | notFolder
  | isFolder
  | nameTooLong
  | tooManyLinks
  /-- The file can be read and not written. -/
  | denied
  /-- The bytes of the file are no text. -/
  | notText
  /-- No path that is opened holds the byte zero. -/
  | nulInPath
deriving DecidableEq, Repr, Inhabited

def Fault.message : Fault → String
  | missing => "No such file or directory (os error 2)"
  | occupied => "File exists (os error 17)"
  | notFolder => "Not a directory (os error 20)"
  | isFolder => "Is a directory (os error 21)"
  | nameTooLong => "File name too long (os error 36)"
  | tooManyLinks => "Too many levels of symbolic links (os error 40)"
  | denied => "Permission denied (os error 13)"
  | notText => "stream did not contain valid UTF-8"
  | nulInPath => "file name contained an unexpected NUL byte"

end ReleaseStamp.FileTree
