import StreamSupervisor.Registry.Slots
import StreamSupervisor.Registry.Status

/-! # Handles on record

Every handle ever put into a registry, by number, with the slots that show one handle per
channel and the handles that were taken out, in the order of their removal. A handle's
token and its exit belong to the handle and do not depend on where it is.
-/

namespace StreamSupervisor

structure Handle where
  channel : Channel
  pid : Option Nat
  spec : StreamSpec
  sink : String
  fired : Bool := false
  exit : Option ExitOutcome := none
deriving DecidableEq, Repr

namespace Handle

def status (h : Handle) : StreamStatus where
  channel := h.channel
  pid := h.pid
  source := h.spec.source
  looped := h.spec.looped
  sink := h.sink
  exit := h.exit

def fire (h : Handle) : Handle := { h with fired := true }

/-- Record how the handle's stream ended, unless that is on record already. -/
def recordExit (outcome : ExitOutcome) (h : Handle) : Handle :=
  { h with exit := h.exit.or (some outcome) }

end Handle

structure Ledger where
  handles : List Handle := []
  current : Slots Nat := {}
  removed : List Nat := []
deriving DecidableEq, Repr

namespace Ledger

inductive Step where
  | set (channel : Channel) (pid : Option Nat) (spec : StreamSpec) (sink : String)
  | delete (channel : Channel)
  | drain
  | get (channel : Channel)
  | guardLen
  | cancel (channel : Channel)
  | cancelRemoved (handle : Nat)
  | removedStatus (handle : Nat)
  | setExit (handle : Nat) (outcome : ExitOutcome)
  | contains (channel : Channel)
  | status (channel : Channel)
  | len
  | isEmpty
  | snapshot
deriving DecidableEq, Repr

inductive Reply where
  | flag (b : Bool)
  | count (n : Nat)
  | lenEmpty (n : Nat) (b : Bool)
  | handle (h : Option Handle)
  | taken (h : Option (Nat × Handle))
  | drained (hs : List (Channel × Nat × Handle))
  | status (s : Option StreamStatus)
  | statuses (ss : List StreamStatus)
deriving DecidableEq, Repr

def shown? (l : Ledger) (c : Channel) : Option (Nat × Handle) :=
  (l.current.get c).bind fun i => l.handles[i]?.map (i, ·)

def status? (l : Ledger) (c : Channel) : Option StreamStatus := (l.shown? c).map (·.2.status)

def entries (l : Ledger) : List (Channel × Nat × Handle) :=
  l.current.toList.filterMap fun p => l.handles[p.2]?.map fun h => (p.1, p.2, h)

def snapshot (l : Ledger) : List StreamStatus := l.entries.map (·.2.2.status)

def modify (l : Ledger) (i : Nat) (f : Handle → Handle) : Ledger :=
  { l with handles := l.handles.modify i f }

/-- Show a new handle on a channel; the one it replaces counts as removed. -/
def set (l : Ledger) (h : Handle) : Ledger where
  handles := l.handles ++ [h]
  current := l.current.set h.channel l.handles.length
  removed := l.removed ++ (l.current.get h.channel).toList

def delete (l : Ledger) (c : Channel) : Ledger :=
  { l with
    current := l.current.erase c
    removed := l.removed ++ (l.current.get c).toList }

def drain (l : Ledger) : Ledger :=
  { l with current := {}, removed := l.removed ++ l.current.toList.map (·.2) }

def removed? (l : Ledger) (i : Nat) : Option Handle :=
  if i ∈ l.removed then l.handles[i]? else none

def step (l : Ledger) : Step → Ledger × Reply
  | .set c pid spec sink =>
    (l.set { channel := c, pid := pid, spec := spec, sink := sink }, .taken (l.shown? c))
  | .delete c => (l.delete c, .taken (l.shown? c))
  | .drain => (l.drain, .drained l.entries)
  | .get c => (l, .handle ((l.shown? c).map (·.2)))
  | .guardLen => (l, .lenEmpty l.current.size l.current.isEmpty)
  | .cancel c =>
    match l.current.get c with
    | some i => (l.modify i .fire, .flag true)
    | none => (l, .flag false)
  | .cancelRemoved i =>
    if i ∈ l.removed then (l.modify i .fire, .flag true) else (l, .flag false)
  | .removedStatus i => (l, .status ((l.removed? i).map (·.status)))
  | .setExit i outcome =>
    (l.modify i (.recordExit outcome), .flag (l.handles[i]?.any (·.exit.isNone)))
  | .contains c => (l, .flag (l.current.contains c))
  | .status c => (l, .status (l.status? c))
  | .len => (l, .count l.current.size)
  | .isEmpty => (l, .flag l.current.isEmpty)
  | .snapshot => (l, .statuses l.snapshot)

structure View where
  reply : Reply
  entries : List StreamStatus
  fired : List Bool
deriving DecidableEq, Repr

def view (l : Ledger) (r : Reply) : View := ⟨r, l.snapshot, l.handles.map (·.fired)⟩

def run (l : Ledger) (steps : List Step) : Ledger := steps.foldl (fun l s => (l.step s).1) l

def views (l : Ledger) : List Step → List View
  | [] => []
  | s :: steps => (l.step s).1.view (l.step s).2 :: (l.step s).1.views steps

theorem entries_eq_filterMap (l : Ledger) :
    l.entries = Channel.all.filterMap fun c => (l.shown? c).map (c, ·) := by
  rw [entries, Slots.toList_eq_walk_all, Slots.walk, List.filterMap_filterMap]
  congr 1
  funext c
  cases hc : l.current.get c <;> simp [shown?, hc, Function.comp_def]

theorem snapshot_eq_filterMap (l : Ledger) : l.snapshot = Channel.all.filterMap l.status? := by
  rw [snapshot, entries_eq_filterMap, List.map_filterMap]
  congr 1
  funext c
  rw [status?, Option.map_map]
  rfl

end Ledger

end StreamSupervisor
