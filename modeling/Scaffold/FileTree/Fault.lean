/-! Why a file operation fails. -/

set_option autoImplicit false

namespace Scaffold

inductive Fault where
  | notFound
  /-- The place is in use as a directory that cannot be renamed over: a path ends in `.` or `..`. -/
  | busy
  | alreadyExists
  | notADirectory
  | isADirectory
  | fileTooLarge
  | nameTooLong
  | tooManyLinks
  | notText
  | nulInPath
deriving DecidableEq, Repr

def Fault.message : Fault → String
  | .notFound => "No such file or directory (os error 2)"
  | .busy => "Device or resource busy (os error 16)"
  | .alreadyExists => "File exists (os error 17)"
  | .notADirectory => "Not a directory (os error 20)"
  | .isADirectory => "Is a directory (os error 21)"
  | .fileTooLarge => "File too large (os error 27)"
  | .nameTooLong => "File name too long (os error 36)"
  | .tooManyLinks => "Too many levels of symbolic links (os error 40)"
  | .notText => "stream did not contain valid UTF-8"
  | .nulInPath => "file name contained an unexpected NUL byte"

end Scaffold
