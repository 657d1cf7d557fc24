import StreamSupervisor.Session.State

/-! # Steps of a session with programs

Calls on a supervisor that launches programs, each awaited before the next. Time passes
for the processes only while somebody waits: for an end, for a number of processes, or in
a shutdown.
-/

namespace StreamSupervisor

inductive ProgramStep where
  | call (call : Call)
  | waitExit (channel : Channel)
  | waitPending (count : Nat)
deriving DecidableEq, Repr

variable {ρ : Type} [Runner ρ]

namespace Supervisor

def hosted (k : Supervisor ρ) : List (Process × Nat) := k.processes.zip (Runner.pids k.launcher)

def killFired (k : Supervisor ρ) : Supervisor ρ :=
  let doomed := k.hosted.filter fun p => p.1.isAlive && p.1.fired
  { k with launcher := doomed.foldl (fun h p => Runner.kill h p.2) k.launcher }

def noticeEnds (k : Supervisor ρ) : Supervisor ρ :=
  { k with
    processes := k.hosted.map fun p =>
      if p.1.isAlive && !p.1.fired then
        match Runner.ended? k.launcher p.2 with
        | some status => p.1.tell (.status status)
        | none => p.1
      else p.1 }

def runPrograms (k : Supervisor ρ) (stop : (Nat → Option WaitStatus) → Bool) : Supervisor ρ :=
  let k := k.killFired
  { k with launcher := Runner.run k.launcher stop }.noticeEnds

def pidOn? (k : Supervisor ρ) (c : Channel) : Option Nat :=
  match (k.registry.get c).map Entry.owner with
  | some (.process i) => (Runner.pids k.launcher)[i]?
  | _ => none

/-- How many processes are still alive, going by what has ended on the machine. -/
def aliveOn (k : Supervisor ρ) (ended? : Nat → Option WaitStatus) : Nat :=
  k.hosted.countP fun p => p.1.isAlive && (ended? p.2).isNone

end Supervisor

namespace Session

def freshOn (g : Settings) (launcher : ρ) : Session ρ :=
  { supervisor := { settings := g, launcher := launcher } }

def waitUntil (x : Session ρ) (stop : (Nat → Option WaitStatus) → Bool) :
    Turn (Session ρ) Answer :=
  let y := ({ x with supervisor := x.supervisor.runPrograms stop } : Session ρ).settle 0
  ⟨y.1, y.2, .done⟩

/-- A step, with the answer that it ends in. -/
def programStep (x : Session ρ) : ProgramStep → Turn (Session ρ) Answer
  | .call call =>
    let y := x.issue call
    let z :=
      if y.1.draining.isEmpty then (y.1, [])
      else ({ y.1 with supervisor := y.1.supervisor.killFired } : Session ρ).settle 0
    let trace := y.2 ++ z.2
    ⟨z.1, trace, ((trace.findSome? (·.answer?)).map (·.2)).getD .done⟩
  | .waitExit c =>
    if (x.supervisor.status? c).any (·.isStale) then ⟨x, [], .done⟩
    else
      match x.supervisor.pidOn? c with
      | some pid => x.waitUntil fun ended? => (ended? pid).isSome
      | none => x.waitUntil fun _ => true
  | .waitPending count =>
    if x.supervisor.pending ≤ count then ⟨x, [], .done⟩
    else x.waitUntil fun ended? => decide (x.supervisor.aliveOn ended? ≤ count)

def programTurns (x : Session ρ) : List ProgramStep → List (Turn (Session ρ) Answer)
  | [] => []
  | s :: rest =>
    let t := x.programStep s
    t :: t.state.programTurns rest

end Session

end StreamSupervisor
