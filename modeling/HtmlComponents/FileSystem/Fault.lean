/-!
# Why a file operation fails

The causes that lie in the structure of the file system or in the text of a
path, with the texts that report them.
-/

namespace HtmlComponents.FileSystem

/-- The causes for which a file operation fails. -/
inductive Fault where
  /-- A name on the way, or the last one, is not there. -/
  | missing
  /-- The path ends in a place that cannot be replaced. -/
  | busy
  /-- What was to be created is there already. -/
  | occupied
  /-- The path goes on behind a file. -/
  | notDirectory
  /-- A directory stands where a file is wanted. -/
  | isDirectory
  | nameTooLong
  /-- A path holds the character with the code 0. -/
  | zeroInPath
  /-- The bytes of a file are no text. -/
  | notText
  deriving DecidableEq

/-- A cause that the system numbers, with its number. -/
def Fault.numbered (text : String) (number : Nat) : String :=
  text ++ " (os error " ++ toString number ++ ")"

/-- The text that reports the fault. -/
def Fault.message : Fault → String
  | missing => numbered "No such file or directory" 2
  | busy => numbered "Device or resource busy" 16
  | occupied => numbered "File exists" 17
  | notDirectory => numbered "Not a directory" 20
  | isDirectory => numbered "Is a directory" 21
  | nameTooLong => numbered "File name too long" 36
  | zeroInPath => "file name contained an unexpected NUL byte"
  | notText => "stream did not contain valid UTF-8"

end HtmlComponents.FileSystem
