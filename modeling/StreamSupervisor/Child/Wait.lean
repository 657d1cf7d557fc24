import StreamSupervisor.Event

/-! # Waiting for a child

Whoever waits for a child watches its end and its token at once. If the token is seen
first, the child is killed and its status still collected, so the wait never resolves
without a collected status.
-/

namespace StreamSupervisor

inductive WaitPhase where
  | watching
  /-- The kill was requested; now only the child's end counts. -/
  | collecting
  | resolved (outcome : ExitOutcome)
deriving DecidableEq, Repr

structure Waiter where
  phase : WaitPhase := .watching
  fired : Bool := false
  ended : Option Collected := none
  kills : Nat := 0
  log : List Event := []
deriving DecidableEq, Repr

inductive Occurrence where
  | ends (collected : Collected)
  | fires
  /-- The wait gets a turn. It looks at the child first or at the token first, and the kill
  that it may request meets a fault or none. -/
  | turn (childFirst : Bool) (killFault : Option Fault)
deriving DecidableEq, Repr

namespace Waiter

def collect (w : Waiter) : Waiter :=
  match w.ended with
  | some collected => { w with phase := .resolved (.classify collected w.fired) }
  | none => w

def requestKill (w : Waiter) (killFault : Option Fault) : Waiter :=
  { w with
    phase := .collecting
    kills := w.kills + 1
    log := w.log ++ (killFault.map Event.killFailed).toList }

def takeTurn (w : Waiter) (childFirst : Bool) (killFault : Option Fault) : Waiter :=
  match w.phase with
  | .watching =>
    if w.fired && !(childFirst && w.ended.isSome) then (w.requestKill killFault).collect
    else w.collect
  | .collecting => w.collect
  | .resolved _ => w

def step (w : Waiter) : Occurrence → Waiter
  | .ends collected => { w with ended := w.ended.or (some collected) }
  | .fires => { w with fired := true }
  | .turn childFirst killFault => w.takeTurn childFirst killFault

def run (w : Waiter) (occurrences : List Occurrence) : Waiter := occurrences.foldl step w

def outcome? (w : Waiter) : Option ExitOutcome :=
  match w.phase with
  | .resolved outcome => some outcome
  | _ => none

end Waiter

end StreamSupervisor
