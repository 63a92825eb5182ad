/-!
# File errors

Why a file could not be opened, read or written, with the wording of the operating system. A failure
that is none of the known ones carries its text.
-/

namespace DisplayEnv

/-- Why a file could not be opened, read or written. -/
inductive FileError where
  | notFound
  | notDirectory
  | isDirectory
  | alreadyExists
  | invalidText
  | other (text : String)
  deriving DecidableEq, Repr

namespace FileError

def message : FileError → String
  | .notFound => "No such file or directory (os error 2)"
  | .alreadyExists => "File exists (os error 17)"
  | .notDirectory => "Not a directory (os error 20)"
  | .isDirectory => "Is a directory (os error 21)"
  | .invalidText => "stream did not contain valid UTF-8"
  | .other text => text

end FileError

end DisplayEnv
