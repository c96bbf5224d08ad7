/-!
# Faults of file access

The reasons for which a file cannot be read or written, and the words that messages give for
them.
-/

namespace Polybuild

/-- Why an access to a file or a directory fails. -/
inductive Fault where
  | notFound
  | alreadyExists
  | notADirectory
  | isADirectory
  | nameTooLong
  | nulInName
  | notText
  deriving DecidableEq, Repr

namespace Fault

/-- The words for a fault, with the number that the operating system gives it. -/
def message : Fault → String
  | notFound => "No such file or directory (os error 2)"
  | alreadyExists => "File exists (os error 17)"
  | notADirectory => "Not a directory (os error 20)"
  | isADirectory => "Is a directory (os error 21)"
  | nameTooLong => "File name too long (os error 36)"
  | nulInName => "file name contained an unexpected NUL byte"
  | notText => "stream did not contain valid UTF-8"

end Fault

end Polybuild
