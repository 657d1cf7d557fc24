import StreamSupervisor.Channel

/-! # Faults

An input or output fault has a kind and a text. A stream error is the cause for which a
call on the supervisor is refused, with what it needs to explain itself.
-/

namespace StreamSupervisor

inductive FaultKind where
  | notFound
  | permissionDenied
  | alreadyExists
  | invalidInput
  | timedOut
  | interrupted
  | outOfMemory
  | wouldBlock
  | unexpectedEof
  | argumentListTooLong
  | notADirectory
  | invalidFilename
  | filesystemLoop
  | uncategorized
  | other
deriving DecidableEq, Repr

def FaultKind.text : FaultKind → String
  | notFound => "entity not found"
  | permissionDenied => "permission denied"
  | alreadyExists => "entity already exists"
  | invalidInput => "invalid input parameter"
  | timedOut => "timed out"
  | interrupted => "operation interrupted"
  | outOfMemory => "out of memory"
  | wouldBlock => "operation would block"
  | unexpectedEof => "unexpected end of file"
  | argumentListTooLong => "argument list too long"
  | notADirectory => "not a directory"
  | invalidFilename => "invalid filename"
  | filesystemLoop => "filesystem loop or indirection limit (e.g. symlink loop)"
  | uncategorized => "uncategorized error"
  | other => "other error"

structure Fault where
  kind : FaultKind
  text : String := kind.text
deriving DecidableEq, Repr

/-- The fault of a text that goes to the system and has a zero byte in it. -/
def Fault.nulByte : Fault := ⟨.invalidInput, "nul byte found in provided data"⟩

inductive StreamError where
  | alreadyRunning (channel : Channel)
  | notRunning (channel : Channel)
  | invalidChannel (key : String)
  | invalidSpec (complaint : String)
  | launchFailed (channel : Channel) (fault : Fault)
  | shutDown
deriving DecidableEq, Repr

namespace StreamError

def message : StreamError → String
  | alreadyRunning c => "stream already running on channel: " ++ c.name
  | notRunning c => "no stream running on channel: " ++ c.name
  | invalidChannel key => "invalid media type: " ++ key
  | invalidSpec complaint => "invalid stream spec: " ++ complaint
  | launchFailed c fault => "failed to start stream on channel " ++ c.name ++ ": " ++ fault.text
  | shutDown => "controller is shut down"

def cause : StreamError → Option Fault
  | launchFailed _ fault => some fault
  | _ => none

end StreamError

/-- Read a channel key, or say which key was not understood. -/
def Channel.ofKey (key : String) : Except StreamError Channel :=
  match Channel.ofKey? key with
  | some c => .ok c
  | none => .error (.invalidChannel key)

theorem Channel.ofKey_eq_ok_iff {key : String} {c : Channel} :
    Channel.ofKey key = .ok c ↔ Channel.ofKey? key = some c := by
  unfold Channel.ofKey
  cases Channel.ofKey? key <;> simp

theorem Channel.ofKey_eq_error_iff {key : String} {e : StreamError} :
    Channel.ofKey key = .error e ↔ Channel.ofKey? key = none ∧ e = .invalidChannel key := by
  unfold Channel.ofKey
  cases Channel.ofKey? key <;> simp [eq_comm]

end StreamSupervisor
