import StreamSupervisor.Session.Step

/-! # Reports

What a step lets one see: the parts of its trace, each in its order, and the state that it
leaves behind.
-/

namespace StreamSupervisor

structure ProcessView where
  pid : Option Nat
  fired : Bool
  exit : Option ExitOutcome
deriving DecidableEq, Repr

structure Report where
  answer : StepAnswer
  done : List (Nat × Answer)
  waiting : List Nat
  launched : List LaunchRecord
  log : List Event
  /-- The events of ended processes, in the order of their texts. -/
  reaped : List Event
  entries : List StreamStatus
  processes : List ProcessView
  pending : Nat
  shutDown : Bool
deriving DecidableEq, Repr

def Report.ofTurn (t : Turn (Session Script) StepAnswer) : Report :=
  let k := t.state.supervisor
  { answer := t.answer
    done := (t.trace.filterMap (·.answer?)).mergeSort fun a b => decide (a.1 ≤ b.1)
    waiting := t.state.waiting
    launched := t.trace.filterMap (·.launch?)
    log := t.trace.filterMap (·.event?)
    reaped := sortEnded toString (t.trace.filterMap (·.reaped?))
    entries := k.list
    processes := k.processes.map fun p => ⟨p.pid, p.fired, p.exit⟩
    pending := k.pending
    shutDown := k.shutDown }

def Session.reports (g : Settings) (steps : List Step) : List Report :=
  ((Session.fresh g).turns steps).map .ofTurn

end StreamSupervisor
