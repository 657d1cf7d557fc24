import StreamSupervisor.Session.State

/-! # Steps of a scripted session

A step issues calls, writes to the launcher's script, ends a process, or takes, uses and
gives back the registry. Only at the end of a step do processes end and shutdowns return,
so no call sees a process end in its own step: the calls of a step are issued and served on
the one thread before the reapers have their turn.
-/

namespace StreamSupervisor

inductive GuardCall where
  | get (channel : Channel)
  | delete (channel : Channel)
  | cancel (channel : Channel)
  | drain
  /-- Put in a guest, which has no process and does not obey the supervisor. -/
  | set (channel : Channel) (spec : StreamSpec) (sink : String)
  | len
deriving DecidableEq, Repr

inductive Step where
  | call (call : Call)
  | batch (calls : List Call)
  | script (launches : List ScriptedLaunch)
  | exit (process : Nat) (collected : Collected)
  | hold
  | release
  | guard (call : GuardCall)
deriving DecidableEq, Repr

inductive StepAnswer where
  | none
  | done
  | flag (b : Bool)
  | status (status : Option StreamStatus)
  | statuses (statuses : List StreamStatus)
  | lenEmpty (n : Nat) (b : Bool)
deriving DecidableEq, Repr

namespace Supervisor

variable {ℓ : Type}

def putGuest (k : Supervisor ℓ) (c : Channel) (s : StreamSpec) (sink : String) :
    Supervisor ℓ :=
  { k with
    registry := k.registry.set c
      { pid := none, spec := s, sink := sink, owner := .guest k.guests.length }
    guests := k.guests ++ [false] }

def guardStep (k : Supervisor ℓ) : GuardCall → Supervisor ℓ × StepAnswer
  | .get c => (k, .status (k.status? c))
  | .delete c => ({ k with registry := k.registry.erase c }, .status (k.status? c))
  | .cancel c =>
    match k.registry.get c with
    | some e => (k.fire e.owner, .flag true)
    | none => (k, .flag false)
  | .drain => ({ k with registry := {} }, .statuses k.list)
  | .set c s sink => (k.putGuest c s sink, .status (k.status? c))
  | .len => (k, .lenEmpty k.registry.size k.registry.isEmpty)

end Supervisor

namespace Session

/-- The first phase of a step, in which no process ends. -/
def act (x : Session Script) : Step → Turn (Session Script) StepAnswer
  | .call call =>
    let y := x.issue call
    ⟨y.1, y.2, .none⟩
  | .batch [] => ⟨x, [], .done⟩
  | .batch calls =>
    let y := x.issueAll calls
    ⟨y.1, y.2, .none⟩
  | .script launches =>
    let k := x.supervisor
    ⟨{ x with supervisor := { k with launcher := k.launcher.append launches } }, [], .done⟩
  | .exit i collected =>
    let t := x.supervisor.tell i collected
    ⟨{ x with supervisor := t.state }, t.trace, .flag t.answer⟩
  | .hold => ⟨{ x with held := true }, [], .done⟩
  | .release =>
    let y := x.release
    ⟨y.1, y.2, .done⟩
  | .guard call =>
    if x.held then
      let y := x.supervisor.guardStep call
      ⟨{ x with supervisor := y.1 }, [], y.2⟩
    else ⟨x, [], .none⟩

/-- A whole step: its first phase, then whatever can end ends. -/
def step (x : Session Script) (s : Step) : Turn (Session Script) StepAnswer :=
  let t := x.act s
  let y := t.state.settle 0
  ⟨y.1, t.trace ++ y.2, t.answer⟩

def fresh (g : Settings) : Session Script := { supervisor := { settings := g, launcher := {} } }

def run (x : Session Script) (steps : List Step) : Session Script :=
  steps.foldl (fun x s => (x.step s).state) x

def turns (x : Session Script) : List Step → List (Turn (Session Script) StepAnswer)
  | [] => []
  | s :: rest => x.step s :: (x.step s).state.turns rest

theorem run_append (x : Session Script) (xs ys : List Step) :
    x.run (xs ++ ys) = (x.run xs).run ys :=
  List.foldl_append

end Session

end StreamSupervisor
