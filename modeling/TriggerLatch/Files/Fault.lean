import TriggerLatch.Text.Blank

/-!
# Failures of file operations

Why a file operation does not succeed, and the text that says so.  The numbers are those of the
operating system.
-/

namespace TriggerLatch.Files

/-- Why a file operation failed. -/
inductive Fault where
  /-- A name on the path is not there. -/
  | notFound
  /-- A name on the path that something lies below is no directory. -/
  | notADirectory
  /-- A directory is where a file is asked for. -/
  | isADirectory
  /-- What is to be made is there already. -/
  | alreadyExists
  /-- A name on the path, or the path, has too many bytes. -/
  | nameTooLong
  /-- The path holds a zero character. -/
  | zeroInPath
  /-- The content of the file is not UTF-8. -/
  | notText
  /-- The operation is not allowed. -/
  | denied
  /-- Anything else, in the words of the medium. -/
  | other (text : Text)
  deriving DecidableEq, Repr

/-- The text that reports a failure. -/
def Fault.message : Fault → String
  | notFound => "No such file or directory (os error 2)"
  | notADirectory => "Not a directory (os error 20)"
  | isADirectory => "Is a directory (os error 21)"
  | alreadyExists => "File exists (os error 17)"
  | nameTooLong => "File name too long (os error 36)"
  | zeroInPath => "file name contained an unexpected NUL byte"
  | notText => "stream did not contain valid UTF-8"
  | denied => "permission denied"
  | other text => String.ofList text

end TriggerLatch.Files
