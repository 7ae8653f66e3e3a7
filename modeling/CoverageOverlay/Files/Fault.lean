-- SUMMARY: Why the system refuses to give the contents of a file.

/-!
# Faults

The reasons for which a path cannot be read, each with the words of the
system for it.
-/

namespace CoverageOverlay

/-- Why a path could not be read. -/
inductive Fault
  /-- No entry has the path. -/
  | notFound
  /-- A step of the path, other than the last, is not a directory. -/
  | notDirectory
  /-- The path names a directory where a file is needed. -/
  | isDirectory
  /-- Too many symbolic links were followed. -/
  | tooManyLinks
  /-- The path, or one of its names, is longer than the system allows. -/
  | nameTooLong
  /-- The path holds a null character. -/
  | nullInName
  /-- The contents are no text although text is needed. -/
  | notText
  /-- Any other reason, in the words of whoever gave it. -/
  | other (reason : String)
deriving DecidableEq, Repr, Inhabited

/-- The words for a fault. -/
def Fault.message : Fault → String
  | notFound => "No such file or directory (os error 2)"
  | notDirectory => "Not a directory (os error 20)"
  | isDirectory => "Is a directory (os error 21)"
  | tooManyLinks => "Too many levels of symbolic links (os error 40)"
  | nameTooLong => "File name too long (os error 36)"
  | nullInName => "file name contained an unexpected NUL byte"
  | notText => "stream did not contain valid UTF-8"
  | other reason => reason

end CoverageOverlay
