/-! # Refusals

Why the system does not do what a process asks of it.
-/

namespace StreamSupervisor.Machine

inductive Refusal where
  | notPermitted
  | noEntry
  | noProcess
  | noDevice
  | listTooLong
  | badFormat
  | badDescriptor
  | noChild
  | denied
  | busy
  | alreadyThere
  | crossDevice
  | notDirectory
  | isDirectory
  | invalid
  | noTerminal
  | tooManyOpen
  | tooLarge
  | noSpace
  | noSeek
  | brokenPipe
  | nameTooLong
  | notEmpty
  | linkLoop
deriving DecidableEq, Repr

namespace Refusal

def text : Refusal → String
  | notPermitted => "Operation not permitted"
  | noEntry => "No such file or directory"
  | noProcess => "No such process"
  | noDevice => "No such device or address"
  | listTooLong => "Argument list too long"
  | badFormat => "Exec format error"
  | badDescriptor => "Bad file descriptor"
  | noChild => "No child processes"
  | denied => "Permission denied"
  | busy => "Text file busy"
  | alreadyThere => "File exists"
  | crossDevice => "Invalid cross-device link"
  | notDirectory => "Not a directory"
  | isDirectory => "Is a directory"
  | invalid => "Invalid argument"
  | noTerminal => "Inappropriate ioctl for device"
  | tooManyOpen => "Too many open files"
  | tooLarge => "File too large"
  | noSpace => "No space left on device"
  | noSeek => "Illegal seek"
  | brokenPipe => "Broken pipe"
  | nameTooLong => "File name too long"
  | notEmpty => "Directory not empty"
  | linkLoop => "Too many levels of symbolic links"

/-- The number by which the system reports a refusal. -/
def number : Refusal → Nat
  | notPermitted => 1
  | noEntry => 2
  | noProcess => 3
  | noDevice => 6
  | listTooLong => 7
  | badFormat => 8
  | badDescriptor => 9
  | noChild => 10
  | denied => 13
  | alreadyThere => 17
  | crossDevice => 18
  | notDirectory => 20
  | isDirectory => 21
  | invalid => 22
  | tooManyOpen => 24
  | noTerminal => 25
  | busy => 26
  | tooLarge => 27
  | noSpace => 28
  | noSeek => 29
  | brokenPipe => 32
  | nameTooLong => 36
  | notEmpty => 39
  | linkLoop => 40

end Refusal

end StreamSupervisor.Machine
