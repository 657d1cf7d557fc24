import StreamSupervisor.Session.Call

/-! # Sessions

A session numbers the calls on one supervisor as they are issued. While somebody holds
the registry, requests queue up for it, first come first served; shutdowns that were
served wait until no process is alive.

One thread drives everything in a session: the calls, the reapers and whoever holds the
registry. Another task gets its turn only where one waits, and a call waits for nothing
between taking the registry and its end, but a shutdown, which has given the registry back
by then. So nothing comes between, and to serve a request is one move of the supervisor.
-/

namespace StreamSupervisor

structure Session (ℓ : Type) where
  supervisor : Supervisor ℓ
  held : Bool := false
  queue : List (Nat × Request) := []
  /-- The shutdowns that were served and wait for the processes to end. -/
  draining : List Nat := []
  issued : Nat := 0
deriving DecidableEq, Repr

namespace Session

variable {ℓ : Type}

def waiting (x : Session ℓ) : List Nat :=
  (x.queue.map (·.1) ++ x.draining).mergeSort

/-- Let time pass. If no process is alive then, the shutdowns that wait are answered. -/
def settle (elapsed : Nat) (x : Session ℓ) : Session ℓ × List Happening :=
  let t := x.supervisor.settle elapsed
  if t.state.pending = 0 then
    ({ x with supervisor := t.state, draining := [] },
      t.trace ++ x.draining.map fun n => .answered n .done)
  else ({ x with supervisor := t.state }, t.trace)

section Serving

variable [Launcher ℓ]

def perform (x : Session ℓ) (n : Nat) (r : Request) : Session ℓ × List Happening :=
  let t := x.supervisor.serve r
  match t.answer with
  | some a => ({ x with supervisor := t.state }, t.trace ++ [.answered n a])
  | none => ({ x with supervisor := t.state, draining := x.draining ++ [n] }, t.trace)

def performAll (x : Session ℓ) : List (Nat × Request) → Session ℓ × List Happening
  | [] => (x, [])
  | p :: rest =>
    let y := x.perform p.1 p.2
    let z := y.1.performAll rest
    (z.1, y.2 ++ z.2)

def issue (x : Session ℓ) (call : Call) : Session ℓ × List Happening :=
  let n := x.issued
  let y := { x with supervisor := x.supervisor.announce call, issued := n + 1 }
  match y.supervisor.check call with
  | .answered a => (y, [.answered n a])
  | .queued r => if y.held then ({ y with queue := y.queue ++ [(n, r)] }, []) else y.perform n r

def issueAll (x : Session ℓ) : List Call → Session ℓ × List Happening
  | [] => (x, [])
  | call :: rest =>
    let y := x.issue call
    let z := y.1.issueAll rest
    (z.1, y.2 ++ z.2)

def release (x : Session ℓ) : Session ℓ × List Happening :=
  { x with held := false, queue := [] }.performAll x.queue

end Serving

end Session

end StreamSupervisor
