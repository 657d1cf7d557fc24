import StreamSupervisor.Supervisor.Transition

/-! # Calls

A call is checked before it asks for the registry. What passes the checks becomes a
request, which is served while no other call has the registry; only a shutdown goes on to
wait after it was served.
-/

namespace StreamSupervisor

inductive Call where
  | start (key : String) (spec : StreamSpec)
  | stop (key : String)
  | status (key : String)
  | isRunning (key : String)
  | list
  | stopAll
  | shutdown
  | isShutDown
  | pendingReapers
  | contains (channel : Channel)
  | len
  | isEmpty
deriving DecidableEq, Repr

inductive Request where
  | start (channel : Channel) (spec : StreamSpec)
  | stop (channel : Channel)
  | status (channel : Channel)
  | isRunning (channel : Channel)
  | list
  | stopAll
  | shutdown
  | contains (channel : Channel)
  | len
  | isEmpty
deriving DecidableEq, Repr

inductive Admission where
  | answered (answer : Answer)
  | queued (request : Request)
deriving DecidableEq, Repr

def Admission.onChannel (key : String) (request : Channel → Except StreamError Request) :
    Admission :=
  match Channel.ofKey key >>= request with
  | .ok r => queued r
  | .error e => answered (.refused e)

namespace Supervisor

variable {ℓ : Type}

/-- Check a call: keys before specs, and nothing for those that need neither. -/
def check (k : Supervisor ℓ) : Call → Admission
  | .start key spec => .onChannel key fun c => spec.validate.map fun _ => .start c spec
  | .stop key => .onChannel key fun c => .ok (.stop c)
  | .status key => .onChannel key fun c => .ok (.status c)
  | .isRunning key => .onChannel key fun c => .ok (.isRunning c)
  | .list => .queued .list
  | .stopAll => .queued .stopAll
  | .shutdown => .queued .shutdown
  | .isShutDown => .answered (.flag k.shutDown)
  | .pendingReapers => .answered (.count k.pending)
  | .contains c => .queued (.contains c)
  | .len => .queued .len
  | .isEmpty => .queued .isEmpty

def announce (k : Supervisor ℓ) : Call → Supervisor ℓ
  | .shutdown => k.fireAll
  | _ => k

/-- Serve a request. A shutdown is not answered yet. -/
def serve [Launcher ℓ] (k : Supervisor ℓ) : Request → Turn (Supervisor ℓ) (Option Answer)
  | .start c spec =>
    let t := k.start c spec
    ⟨t.state, t.trace, some (.ofResult t.answer)⟩
  | .stop c =>
    let t := k.stop c
    ⟨t.state, t.trace, some (.ofResult t.answer)⟩
  | .status c => ⟨k, [], some (.status (k.status? c))⟩
  | .isRunning c => ⟨k, [], some (.flag (k.isRunning c))⟩
  | .list => ⟨k, [], some (.statuses k.list)⟩
  | .stopAll =>
    let t := k.stopAll
    ⟨t.state, t.trace, some (.count t.answer)⟩
  | .shutdown =>
    let t := k.drain
    ⟨t.state, t.trace, none⟩
  | .contains c => ⟨k, [], some (.flag (k.registry.contains c))⟩
  | .len => ⟨k, [], some (.count k.registry.size)⟩
  | .isEmpty => ⟨k, [], some (.flag k.registry.isEmpty)⟩

end Supervisor

end StreamSupervisor
