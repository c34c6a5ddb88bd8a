namespace ServerKeeper

inductive FileFault
  | notPermitted
  | notFound
  | noProcess
  | noDevice
  | tooManyArguments
  | notExecutableFormat
  | badDescriptor
  | permissionDenied
  | busy
  | alreadyExists
  | notADirectory
  | isADirectory
  | invalidArgument
  | noSpace
  | illegalSeek
  | brokenPipe
  | nameTooLong
  | notEmpty
  | tooManyLinks
  | nulInPath
  /-- A program, an argument or a variable with a NUL in it cannot be handed over. -/
  | nulInCommand
  | notText
  deriving DecidableEq, Repr

namespace FileFault

def text : FileFault → String
  | notPermitted => "Operation not permitted"
  | notFound => "No such file or directory"
  | noProcess => "No such process"
  | noDevice => "No such device or address"
  | tooManyArguments => "Argument list too long"
  | notExecutableFormat => "Exec format error"
  | badDescriptor => "Bad file descriptor"
  | permissionDenied => "Permission denied"
  | busy => "Device or resource busy"
  | alreadyExists => "File exists"
  | notADirectory => "Not a directory"
  | isADirectory => "Is a directory"
  | invalidArgument => "Invalid argument"
  | noSpace => "No space left on device"
  | illegalSeek => "Illegal seek"
  | brokenPipe => "Broken pipe"
  | nameTooLong => "File name too long"
  | notEmpty => "Directory not empty"
  | tooManyLinks => "Too many levels of symbolic links"
  | nulInPath => "file name contained an unexpected NUL byte"
  | nulInCommand => "nul byte found in provided data"
  | notText => "stream did not contain valid UTF-8"

def number? : FileFault → Option Nat
  | notPermitted => some 1
  | notFound => some 2
  | noProcess => some 3
  | noDevice => some 6
  | tooManyArguments => some 7
  | notExecutableFormat => some 8
  | badDescriptor => some 9
  | permissionDenied => some 13
  | busy => some 16
  | alreadyExists => some 17
  | notADirectory => some 20
  | isADirectory => some 21
  | invalidArgument => some 22
  | noSpace => some 28
  | illegalSeek => some 29
  | brokenPipe => some 32
  | nameTooLong => some 36
  | notEmpty => some 39
  | tooManyLinks => some 40
  | nulInPath | nulInCommand | notText => none

def message (f : FileFault) : String :=
  f.text ++ f.number?.elim "" fun n => " (os error " ++ toString n ++ ")"

end FileFault

end ServerKeeper
