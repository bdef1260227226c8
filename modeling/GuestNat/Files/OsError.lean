/-!
# Refusals of the operating system

Why reading a file, looking for one or starting a program can fail.
-/

namespace GuestNat

inductive OsError
  | notFound
  | permissionDenied
  | notDirectory
  | isDirectory
  | invalidArgument
  | readOnly
  | nameTooLong
  | tooManyLinks
  /-- A file name with a NUL in it. -/
  | nulInName
  /-- A program name or an argument with a NUL in it. -/
  | nulInCommand
  /-- A text file whose content is no UTF-8. -/
  | notText
  | other (text : String)
deriving DecidableEq, Repr

def OsError.message : OsError → String
  | .notFound => "No such file or directory (os error 2)"
  | .permissionDenied => "Permission denied (os error 13)"
  | .notDirectory => "Not a directory (os error 20)"
  | .isDirectory => "Is a directory (os error 21)"
  | .invalidArgument => "Invalid argument (os error 22)"
  | .readOnly => "Read-only file system (os error 30)"
  | .nameTooLong => "File name too long (os error 36)"
  | .tooManyLinks => "Too many levels of symbolic links (os error 40)"
  | .nulInName => "file name contained an unexpected NUL byte"
  | .nulInCommand => "nul byte found in provided data"
  | .notText => "stream did not contain valid UTF-8"
  | .other text => text

end GuestNat
