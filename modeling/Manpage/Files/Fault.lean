/-
# What the system reports

The faults that reading, making and replacing files, and starting commands, end in, with the
wording and the number that the system gives each of them.
-/
import Manpage.Text.Basic

namespace Manpage

/-- Why the system refuses an operation. -/
inductive SystemFault
  | notPermitted
  | notFound
  | noSuchDevice
  | badExecutable
  | badDescriptor
  | permissionDenied
  | busy
  | exists
  | notDirectory
  | isDirectory
  | invalidArgument
  | noSpace
  | brokenPipe
  | nameTooLong
  | notEmpty
  /-- A path with a NUL in it. -/
  | nulInPath
  /-- An argument of a command with a NUL in it. -/
  | nulInArgument
  /-- A file that should be text and is not UTF-8. -/
  | notText
deriving DecidableEq, Repr

/-- The system's own number of a fault, where it has one. -/
def SystemFault.number? : SystemFault → Option Nat
  | .notPermitted => some 1
  | .notFound => some 2
  | .noSuchDevice => some 6
  | .badExecutable => some 8
  | .badDescriptor => some 9
  | .permissionDenied => some 13
  | .busy => some 16
  | .exists => some 17
  | .notDirectory => some 20
  | .isDirectory => some 21
  | .invalidArgument => some 22
  | .noSpace => some 28
  | .brokenPipe => some 32
  | .nameTooLong => some 36
  | .notEmpty => some 39
  | .nulInPath => none
  | .nulInArgument => none
  | .notText => none

/-- The wording of a fault without its number. -/
def SystemFault.wording : SystemFault → Text
  | .notPermitted => "Operation not permitted".toList
  | .notFound => "No such file or directory".toList
  | .noSuchDevice => "No such device or address".toList
  | .badExecutable => "Exec format error".toList
  | .badDescriptor => "Bad file descriptor".toList
  | .permissionDenied => "Permission denied".toList
  | .busy => "Device or resource busy".toList
  | .exists => "File exists".toList
  | .notDirectory => "Not a directory".toList
  | .isDirectory => "Is a directory".toList
  | .invalidArgument => "Invalid argument".toList
  | .noSpace => "No space left on device".toList
  | .brokenPipe => "Broken pipe".toList
  | .nameTooLong => "File name too long".toList
  | .notEmpty => "Directory not empty".toList
  | .nulInPath => "file name contained an unexpected NUL byte".toList
  | .nulInArgument => "nul byte found in provided data".toList
  | .notText => "stream did not contain valid UTF-8".toList

/-- The message that reports a fault. -/
def SystemFault.message (fault : SystemFault) : Text :=
  match fault.number? with
  | some n => fault.wording ++ " (os error ".toList ++ Text.ofNat n ++ ")".toList
  | none => fault.wording

end Manpage
