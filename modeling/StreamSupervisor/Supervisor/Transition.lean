import StreamSupervisor.Supervisor.Trace

/-! # Transitions

What starting, stopping and shutting down do while they have the registry to themselves,
and how processes end. A start takes the old entry out and fires its token before it
launches, so a launch always finds its channel free.
-/

namespace StreamSupervisor

namespace Supervisor

variable {ℓ : Type}

def dismiss (k : Supervisor ℓ) (c : Channel) (e : Entry) : Supervisor ℓ :=
  { k with registry := k.registry.erase c }.fire e.owner

def launchRecord (k : Supervisor ℓ) (c : Channel) (arguments : List String) (failed : Bool) :
    LaunchRecord where
  channel := c
  arguments := arguments
  failed := failed
  fired := k.shutDown
  firedBefore := k.processes.map (·.fired)
  occupied := k.registry.contains c

def install (k : Supervisor ℓ) (c : Channel) (s : StreamSpec) (child : Child) : Supervisor ℓ :=
  { k with
    registry := k.registry.set c
      { pid := child.pid
        spec := s
        sink := outputSink k.settings c s
        owner := .process k.processes.length }
    processes := k.processes ++
      [{ channel := c
         arguments := arguments k.settings c s
         pid := child.pid
         course := child.course
         fired := k.shutDown }] }

def stop (k : Supervisor ℓ) (c : Channel) : Turn (Supervisor ℓ) (Except StreamError Unit) :=
  match k.registry.get c with
  | none => ⟨k, [.logged (.refusedNotRunning c)], .error (.notRunning c)⟩
  | some e => ⟨k.dismiss c e, [.logged (.stopRequested c e.pid)], .ok ()⟩

/-- Empty the registry, then fire the tokens of what was in it; answers how many. -/
def stopAll (k : Supervisor ℓ) : Turn (Supervisor ℓ) Nat :=
  let drained := k.registry.toList
  { state := drained.foldl (fun k p => k.fire p.2.owner) { k with registry := {} }
    trace := drained.map fun p => .logged (.stopRequested p.1 p.2.pid)
    answer := drained.length }

/-- The part of a shutdown that empties the registry, before it waits. -/
def drain (k : Supervisor ℓ) : Turn (Supervisor ℓ) Unit :=
  let t := k.stopAll
  { state := t.state
    trace := t.trace ++ [.logged (.awaiting t.answer t.state.pending)]
    answer := () }

def tell (k : Supervisor ℓ) (i : Nat) (collected : Collected) : Turn (Supervisor ℓ) Bool :=
  if k.processes[i]?.any (·.isAlive) then
    ⟨{ k with processes := k.processes.modify i (.tell collected) }, [], true⟩
  else ⟨k, [], false⟩

def settle (elapsed : Nat) (k : Supervisor ℓ) : Turn (Supervisor ℓ) Unit where
  state := { k with processes := k.processes.map (.settle elapsed) }
  trace := k.processes.zipIdx.filterMap fun p => (p.1.ending? elapsed).map (.reaped p.2)
  answer := ()

variable [Launcher ℓ]

def launch (k : Supervisor ℓ) (c : Channel) (s : StreamSpec) :
    Turn (Supervisor ℓ) (Except StreamError Unit) :=
  let args := arguments k.settings c s
  let reply := Launcher.launch k.launcher
    { channel := c, arguments := args, index := k.processes.length }
  let k' := { k with launcher := reply.launcher }
  let called (failed : Bool) := .launched (k.launchRecord c args failed) :: reply.events.map .logged
  match reply.child with
  | .ok child =>
    { state := k'.install c s child
      trace := called false ++ [.logged (.started c child.pid s.source)]
      answer := .ok () }
  | .error fault =>
    { state := k'
      trace := called true ++ [.logged (.launchFailed c s.source fault)]
      answer := .error (.launchFailed c fault) }

def start (k : Supervisor ℓ) (c : Channel) (s : StreamSpec) :
    Turn (Supervisor ℓ) (Except StreamError Unit) :=
  if k.shutDown then ⟨k, [.logged (.refusedShutDown c)], .error .shutDown⟩
  else
    match k.registry.get c with
    | none => k.launch c s
    | some e =>
      if s.restart then
        let t := (k.dismiss c e).launch c s
        { t with trace := .logged (.superseded c e.pid e.spec.source) :: t.trace }
      else ⟨k, [.logged (.refusedRunning c e.pid)], .error (.alreadyRunning c)⟩

end Supervisor

end StreamSupervisor
