import StreamSupervisor.Registry.Slots
import StreamSupervisor.Registry.Status
import StreamSupervisor.Stream.Arguments
import StreamSupervisor.Supervisor.Launcher

/-! # The supervisor's state

Processes are kept in the order of their launch and never forgotten, while the registry
shows at most one entry on each channel. An entry names the owner of its token: a process
of the supervisor, or a guest that somebody else put in.
-/

namespace StreamSupervisor

structure Process where
  channel : Channel
  arguments : List String
  pid : Option Nat
  course : Course
  fired : Bool := false
  exit : Option ExitOutcome := none
deriving DecidableEq, Repr

namespace Process

def fire (p : Process) : Process := { p with fired := true }

def isAlive (p : Process) : Bool := p.exit.isNone

def finish (collected : Collected) (p : Process) : Process :=
  { p with exit := some (.classify collected p.fired) }

def tell (collected : Collected) (p : Process) : Process :=
  { p with course := .after 0 collected }

/-- Let some milliseconds pass, after which a process that can end has ended. -/
def settle (elapsed : Nat) (p : Process) : Process :=
  if p.isAlive then
    match p.course with
    | .untilTold => p
    | .untilCancelled => if p.fired then p.finish (.status .killed) else p
    | .after delay collected =>
      if delay ≤ elapsed then p.finish collected
      else if p.fired then p.finish (.status .killed)
      else { p with course := .after (delay - elapsed) collected }
  else p

/-- The event of a process that was alive and has ended by the time things settle. -/
def ending? (elapsed : Nat) (p : Process) : Option Event :=
  if p.isAlive then (p.settle elapsed).exit.map (.ended p.channel p.pid) else none

end Process

inductive Owner where
  | process (index : Nat)
  | guest (index : Nat)
deriving DecidableEq, Repr

structure Entry where
  pid : Option Nat
  spec : StreamSpec
  sink : String
  owner : Owner
deriving DecidableEq, Repr

structure Supervisor (ℓ : Type) where
  settings : Settings
  launcher : ℓ
  registry : Slots Entry := {}
  processes : List Process := []
  guests : List Bool := []
  shutDown : Bool := false
deriving DecidableEq, Repr

namespace Supervisor

variable {ℓ : Type}

def fire (k : Supervisor ℓ) : Owner → Supervisor ℓ
  | .process i => { k with processes := k.processes.modify i .fire }
  | .guest i => { k with guests := k.guests.modify i fun _ => true }

/-- Fire the token that stands above every process's own, which guests do not obey. -/
def fireAll (k : Supervisor ℓ) : Supervisor ℓ :=
  { k with processes := k.processes.map .fire, shutDown := true }

def exit? (k : Supervisor ℓ) : Owner → Option ExitOutcome
  | .process i => k.processes[i]?.bind (·.exit)
  | .guest _ => none

def statusOf (k : Supervisor ℓ) (c : Channel) (e : Entry) : StreamStatus where
  channel := c
  pid := e.pid
  source := e.spec.source
  looped := e.spec.looped
  sink := e.sink
  exit := k.exit? e.owner

def status? (k : Supervisor ℓ) (c : Channel) : Option StreamStatus :=
  (k.registry.get c).map (k.statusOf c)

def isRunning (k : Supervisor ℓ) (c : Channel) : Bool := (k.status? c).any (!·.isStale)

def list (k : Supervisor ℓ) : List StreamStatus :=
  k.registry.toList.map fun p => k.statusOf p.1 p.2

/-- How many processes are alive; each of them is waited for. -/
def pending (k : Supervisor ℓ) : Nat := k.processes.countP (·.isAlive)

theorem status?_isSome (k : Supervisor ℓ) (c : Channel) :
    (k.status? c).isSome = k.registry.contains c := by
  simp [status?, Slots.contains]

theorem mem_list {k : Supervisor ℓ} {s : StreamStatus} :
    s ∈ k.list ↔ ∃ c, k.status? c = some s := by
  simp only [list, status?, List.mem_map, Prod.exists, Slots.mem_toList, Option.map_eq_some_iff]

end Supervisor

end StreamSupervisor
