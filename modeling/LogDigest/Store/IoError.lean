import LogDigest.Store.Path

/-!
# Failures of input and output

Why a file could not be read or written, with the wording of each cause.
-/

namespace LogDigest

/-- Why reading or writing failed. -/
inductive IoError where
  /-- Nothing is kept in memory under this path. -/
  | noInput (path : Path)
  /-- Writing to this path is refused. -/
  | refused (path : Path)
  | noEntry
  /-- Something on the way is no directory. -/
  | notADirectory
  | isADirectory
  /-- There is something where nothing is expected. -/
  | alreadyThere
  /-- A path, or a name in it, is too long. -/
  | nameTooLong
  | zeroByte
  /-- A device takes no bytes. -/
  | noSpace
  /-- Behind a device there is nothing. -/
  | noDevice
  /-- A writer takes no more bytes. -/
  | full
  | notText
  /-- Any other failure, in the words of the system. -/
  | system (message : String)
deriving DecidableEq, Repr

/-- The failure in words. -/
def IoError.message : IoError → String
  | noInput path => "no in-memory input at '" ++ path.text ++ "'"
  | refused path => "writes to '" ++ path.text ++ "' are refused"
  | noEntry => "No such file or directory (os error 2)"
  | notADirectory => "Not a directory (os error 20)"
  | isADirectory => "Is a directory (os error 21)"
  | alreadyThere => "File exists (os error 17)"
  | nameTooLong => "File name too long (os error 36)"
  | zeroByte => "file name contained an unexpected NUL byte"
  | noSpace => "No space left on device (os error 28)"
  | noDevice => "No such device or address (os error 6)"
  | full => "writer full"
  | notText => "stream did not contain valid UTF-8"
  | system message => message

end LogDigest
