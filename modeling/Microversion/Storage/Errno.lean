import Microversion.Text.Digits

/-! # Why a file operation fails -/

namespace Microversion.Storage

/-- The reasons that the file system of this library knows, and any other by its number and text. -/
inductive Errno where
  | noEntry
  | busy
  | alreadyExists
  | notDirectory
  | isDirectory
  | noSpace
  | nameTooLong
  | linkLoop
  /-- The path holds a zero character, which would end it; no operation is tried. -/
  | zeroInPath
  | other (code : Nat) (text : String)
deriving DecidableEq, Repr

namespace Errno

/-- The number of an error that an operating system reports. -/
def code? : Errno → Option Nat
  | noEntry => some 2
  | busy => some 16
  | alreadyExists => some 17
  | notDirectory => some 20
  | isDirectory => some 21
  | noSpace => some 28
  | nameTooLong => some 36
  | linkLoop => some 40
  | zeroInPath => none
  | other code _ => some code

def description : Errno → String
  | noEntry => "No such file or directory"
  | busy => "Device or resource busy"
  | alreadyExists => "File exists"
  | notDirectory => "Not a directory"
  | isDirectory => "Is a directory"
  | noSpace => "No space left on device"
  | nameTooLong => "File name too long"
  | linkLoop => "Too many levels of symbolic links"
  | zeroInPath => "file name contained an unexpected NUL byte"
  | other _ text => text

/-- The description with the number of the error, if it has one. -/
def message (e : Errno) : String :=
  match e.code? with
  | some code => e.description ++ " (os error " ++ String.ofList (Text.decimal code) ++ ")"
  | none => e.description

end Errno

end Microversion.Storage
