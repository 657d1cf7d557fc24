import StreamSupervisor.Supervisor.State

/-! # What happens

The trace of a piece of work lists its happenings in order: events logged, launches tried,
processes seen to end, and calls answered.
-/

namespace StreamSupervisor

inductive Answer where
  | done
  | refused (error : StreamError)
  | status (status : Option StreamStatus)
  | statuses (statuses : List StreamStatus)
  | flag (b : Bool)
  | count (n : Nat)
deriving DecidableEq, Repr

def Answer.ofResult : Except StreamError Unit → Answer
  | .ok () => done
  | .error e => refused e

/-- How things stood when a launcher was called, and whether it failed. -/
structure LaunchRecord where
  channel : Channel
  arguments : List String
  failed : Bool
  fired : Bool
  firedBefore : List Bool
  occupied : Bool
deriving DecidableEq, Repr

inductive Happening where
  | logged (event : Event)
  | launched (record : LaunchRecord)
  | reaped (process : Nat) (event : Event)
  | answered (call : Nat) (answer : Answer)
deriving DecidableEq, Repr

/-- The result of a piece of work on a state. -/
structure Turn (σ α : Type) where
  state : σ
  trace : List Happening
  answer : α

namespace Happening

def event? : Happening → Option Event
  | logged e => some e
  | _ => none

def launch? : Happening → Option LaunchRecord
  | launched r => some r
  | _ => none

def reaped? : Happening → Option Event
  | reaped _ e => some e
  | _ => none

def answer? : Happening → Option (Nat × Answer)
  | answered n a => some (n, a)
  | _ => none

end Happening

end StreamSupervisor
