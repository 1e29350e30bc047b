/-!
# Failures of the surroundings

What the file system, a storage medium, the console or the text of a file can go wrong with,
each with the words that reports use for it.
-/

namespace SealedLog

/-- Why an input or output step failed. -/
inductive SystemError
  | notFound
  | busy
  | alreadyExists
  | notADirectory
  | isADirectory
  | nameTooLong
  /-- A file that should hold text holds bytes that are none. -/
  | notText
  /-- A path with a zero byte names nothing. -/
  | zeroInPath
  /-- A writer took no byte of a non-empty buffer. -/
  | nothingWritten
  /-- A log that does not end with a whole record. -/
  | trailingBytes (count : Nat)
  /-- A failure that the medium describes itself. -/
  | reported (text : String)
deriving Repr, DecidableEq

namespace SystemError

/-- The words for a failure. -/
def message : SystemError → String
  | notFound => "No such file or directory (os error 2)"
  | busy => "Device or resource busy (os error 16)"
  | alreadyExists => "File exists (os error 17)"
  | notADirectory => "Not a directory (os error 20)"
  | isADirectory => "Is a directory (os error 21)"
  | nameTooLong => "File name too long (os error 36)"
  | notText => "stream did not contain valid UTF-8"
  | zeroInPath => "file name contained an unexpected NUL byte"
  | nothingWritten => "failed to write whole buffer"
  | trailingBytes count => toString count ++ " trailing bytes after last whole record"
  | reported text => text

end SystemError

end SealedLog
