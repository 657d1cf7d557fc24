import StreamSupervisor.Child.Wait
import StreamSupervisor.Program.Host

/-! # Trials

One program is launched and waited for, and its token fires at a given time or not at all.
-/

namespace StreamSupervisor

inductive Firing where
  | never
  /-- Before the launch, or after it but before the wait. -/
  | early
  | during (elapsed : Nat)
deriving DecidableEq, Repr

namespace Trial

def ending? (h : Host) (pid : Nat) (limit : Option Nat) : Option WaitStatus :=
  (h.run (fun w => (w.ended? pid).isSome) limit).world.ended? pid

def occurrences (firing : Firing) (h : Host) (pid : Nat) : List Occurrence :=
  let turn : Occurrence := .turn true none
  let killed : List Occurrence := [turn, .ends (.status .killed), turn]
  match firing with
  | .early => .fires :: killed
  | .never =>
    match ending? h pid none with
    | some status => [turn, .ends (.status status), turn]
    | none => [turn]
  | .during elapsed =>
    match ending? h pid (some (elapsed * 1000)) with
    | some status => [turn, .ends (.status status), turn]
    | none => turn :: .fires :: killed

def outcome? (firing : Firing) (h : Host) (pid : Nat) : Option ExitOutcome :=
  (({} : Waiter).run (occurrences firing h pid)).outcome?

/-- The events of a launch, and how its wait resolves or why there is none. -/
def run (p : Program) (c : Channel) (args : List String) (firing : Firing) :
    List Event × Except Fault (Option ExitOutcome) :=
  let h := Host.fresh p
  ((Launcher.launch h { channel := c, arguments := args, index := 0 }).events,
    (h.spawn args).map fun (pid, h) => outcome? firing h pid)

end Trial

end StreamSupervisor
