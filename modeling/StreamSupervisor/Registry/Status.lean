import StreamSupervisor.Stream.Exit
import StreamSupervisor.Stream.Spec

/-! # Stream status

What the registry shows of a stream: what it plays, where to, and how it ended if it has.
-/

namespace StreamSupervisor

structure StreamStatus where
  channel : Channel
  pid : Option Nat
  source : String
  looped : Bool
  sink : String
  exit : Option ExitOutcome
deriving DecidableEq, Repr

def StreamStatus.isStale (s : StreamStatus) : Bool := s.exit.isSome

end StreamSupervisor
