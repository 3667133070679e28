/-!
# Files

What can be known about a file, and why it cannot be read or written.
-/

namespace LinkedSheets

inductive FileError where
  | missing
  | notDirectory
  | isDirectory
  | exists
  | nameTooLong
  | badName
  | notText
  | other (description : String)
deriving DecidableEq

def FileError.message : FileError → String
  | .missing => "No such file or directory (os error 2)"
  | .notDirectory => "Not a directory (os error 20)"
  | .isDirectory => "Is a directory (os error 21)"
  | .exists => "File exists (os error 17)"
  | .nameTooLong => "File name too long (os error 36)"
  | .badName => "file name contained an unexpected NUL byte"
  | .notText => "stream did not contain valid UTF-8"
  | .other description => description

/-- A file as it is found under a path: its size in bytes and its text. -/
structure FileInfo where
  isFile : Bool
  size : Nat
  text : Except FileError String

end LinkedSheets
