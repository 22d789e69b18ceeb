import Overrule.Text.Utf8

namespace Overrule

abbrev Path := Bytes

def Path.display (path : Path) : Text := Utf8.decode path

inductive SystemError where
  | missing
  | notDirectory
  | isDirectory
  | deviceFull
  | nameTooLong
  | tooManyLinks
  | zeroByte
  | other (message : Text)
  deriving DecidableEq, Repr

/-- The system's words for a reason, with the number it is known by, if it has one. -/
def SystemError.message : SystemError → Text
  | .missing => "No such file or directory (os error 2)".toList
  | .notDirectory => "Not a directory (os error 20)".toList
  | .isDirectory => "Is a directory (os error 21)".toList
  | .deviceFull => "No space left on device (os error 28)".toList
  | .nameTooLong => "File name too long (os error 36)".toList
  | .tooManyLinks => "Too many levels of symbolic links (os error 40)".toList
  | .zeroByte => "file name contained an unexpected NUL byte".toList
  | .other message => message

structure ReadError where
  path : Path
  cause : SystemError
  deriving DecidableEq, Repr

def ReadError.isMissing (error : ReadError) : Bool := error.cause == .missing

def ReadError.message (error : ReadError) : Text :=
  if error.isMissing then "file not found: ".toList ++ error.path.display
  else "failed to read file ".toList ++ error.path.display ++ ": ".toList ++ error.cause.message

end Overrule
