import StreamSupervisor.Machine.Activity
import StreamSupervisor.Machine.Excerpt

/-! # The world of processes

Processes with their descriptors, the files that are open, the pipes between processes and
a clock. A process that has ended stays known until whoever began it has collected it.
-/

namespace StreamSupervisor.Machine

inductive Target where
  | device (device : Device)
  | node (node : Nat)
  | queue (queue : Nat)

/-- A file as it was opened once; descriptors that stem from each other share it. -/
structure OpenFile where
  target : Target
  place : Nat := 0
  opening : Opening

structure Descriptor where
  number : Nat
  file : Nat
  /-- Whether it is closed when the process runs another program. -/
  fleeting : Bool := false

/-- What has become of a pipe with a name that a process wants to open: it waits for somebody
at the other end, or has got a descriptor. -/
inductive Meeting where
  | awaited (queue : Nat) (opening : Opening)
  | met (descriptor : Nat)

structure Proc where
  pid : Nat
  parent : Nat
  group : Nat
  doing : Activity
  /-- The name of the program, and the words with which it was begun. -/
  name : String := ""
  words : List String := []
  /-- When the process may go on; nothing while it waits for something to happen. -/
  ready : Option Nat
  /-- Until when it sleeps. -/
  deadline : Option Nat := none
  /-- Whether it goes on before that time if something happens. -/
  listens : Bool := false
  meeting : Option Meeting := none
  descriptors : List Descriptor
  /-- The directory in which relative paths begin. -/
  directory : Nat
  mask : Nat := 18
  ignored : List Nat := []
  handled : List Nat := []
  /-- The handled signals that have come and that it does not know of yet. -/
  pending : List Nat := []
  stopped : Bool := false
  limits : List (Char × Limit) := []
  /-- For how many microseconds it has been busy. -/
  spent : Nat := 0
  ended : Option WaitStatus := none

structure World where
  /-- Microseconds from the start. -/
  clock : Nat := 0
  files : Files
  opens : List (Nat × OpenFile) := []
  queues : List (Nat × String) := []
  procs : List Proc := []
  nextOpen : Nat := 0
  nextQueue : Nat := 0
  nextPid : Nat := 4201

namespace Proc

def descriptor? (p : Proc) (number : Nat) : Option Descriptor :=
  p.descriptors.find? (·.number == number)

/-- The first number from the given one on that is no descriptor yet. -/
def freeNumber (p : Proc) (least : Nat) : Nat :=
  let taken := p.descriptors.map (·.number)
  ((List.range (taken.length + 1)).find? fun n => !taken.contains (least + n)).getD 0 + least

def isAlive (p : Proc) : Bool := p.ended.isNone

/-- The limits of processes that never set any. -/
def firstLimits : List (Char × Limit) :=
  [('n', ⟨some 1048576, some 1048576⟩), ('s', ⟨some 8388608, none⟩),
    ('l', ⟨some 8388608, some 8388608⟩), ('i', ⟨some 127424, some 127424⟩),
    ('q', ⟨some 819200, some 819200⟩), ('e', ⟨some 0, some 0⟩), ('r', ⟨some 0, some 0⟩)]

def limit (p : Proc) (letter : Char) : Limit :=
  (p.limits.lookup letter).getD ((firstLimits.lookup letter).getD {})

/-- Whether a number is too high for a descriptor. -/
def exceeds (p : Proc) (number : Nat) : Bool := (p.limit 'n').soft.any (· ≤ number)

/-- What a signal does to a process, apart from what follows from its end. -/
def receive (p : Proc) (signal now : Nat) : Proc :=
  if !p.isAlive || signal = 0 then p
  else
    let p := if signal = 18 then { p with stopped := false } else p
    if isStubborn signal then
      if signal = 9 then { p with ended := some (.signalled 9) } else { p with stopped := true }
    else if p.ignored.contains signal then p
    else if p.handled.contains signal then
      { p with
        pending := if p.pending.contains signal then p.pending else p.pending ++ [signal]
        ready := if p.ready.isNone || p.deadline.isSome then some now else p.ready }
    else
      match defaultAction signal with
      | .ignore | .resume => p
      | .stop => { p with stopped := true }
      | .terminate => { p with ended := some (.signalled signal) }

/-- Account for the time that a process was busy, as far as that is limited. -/
def use (p : Proc) (time now : Nat) : Proc :=
  if p.limits.isEmpty then p
  else
    let l := p.limit 't'
    let p := { p with spent := p.spent + time }
    let isOver (limit : Option Nat) : Bool := limit.any fun s => s * 1000000 ≤ p.spent
    if isOver l.hard then p.receive 9 now
    else if isOver l.soft then p.receive 24 now
    else p

end Proc

namespace World

/-- The time that files are stamped with, which goes on in steps of four milliseconds. -/
def now (w : World) : Int := (w.clock / 4000 * 4000 : Nat)

def file? (w : World) (p : Proc) (number : Nat) : Option (Nat × OpenFile) :=
  match p.descriptor? number with
  | some d => (w.opens.lookup d.file).map fun f => (d.file, f)
  | none => none

def setFile (w : World) (i : Nat) (f : OpenFile) : World :=
  { w with opens := w.opens.map fun o => if o.1 == i then (i, f) else o }

def queueText (w : World) (q : Nat) : String := (w.queues.lookup q).getD ""

def setQueue (w : World) (q : Nat) (text : String) : World :=
  { w with queues := w.queues.map fun e => if e.1 == q then (q, text) else e }

/-- Let everybody look again who waits for something to happen. -/
def rouse (w : World) : World :=
  { w with
    procs := w.procs.map fun p =>
      if p.isAlive && (p.ready.isNone || p.listens) then { p with ready := some w.clock } else p }

/-- Whether some process has a file open. -/
def holds (w : World) (i : Nat) : Bool :=
  w.procs.any fun p => p.descriptors.any (·.file == i)

/-- Forget the open files that none of the processes has open, one of which is given as it
is now. -/
def forget (w : World) (p : Proc) (candidates : List Nat) : World :=
  let isHeld (i : Nat) : Bool :=
    p.descriptors.any (·.file == i) ||
      w.procs.any fun q => q.pid != p.pid && q.descriptors.any (·.file == i)
  let gone := candidates.filter fun i => !isHeld i
  if gone.isEmpty then w
  else { w with opens := w.opens.filter fun o => !gone.contains o.1 }

/-- Whether a pipe can be read from, or written to, by anybody. -/
def hasEnd (w : World) (q : Nat) (writing : Bool) : Bool :=
  w.opens.any fun o =>
    match o.2.target with
    | .queue r => r == q && (if writing then o.2.opening.writable else o.2.opening.readable)
    | _ => false

/-- Open a file anew under a number of a process. -/
def attach (w : World) (p : Proc) (f : OpenFile) : Nat × World × Proc :=
  let n := p.freeNumber 0
  (n, { w with opens := (w.nextOpen, f) :: w.opens, nextOpen := w.nextOpen + 1 },
    { p with descriptors := ⟨n, w.nextOpen, false⟩ :: p.descriptors })

/-- Close a number of a process. -/
def detach (w : World) (p : Proc) (number : Nat) : World × Proc :=
  match p.descriptor? number with
  | none => (w, p)
  | some d =>
    let q := { p with descriptors := p.descriptors.filter fun e => e.number != number }
    ((w.forget q [d.file]).rouse, q)

/-- The process with a number, if there is one. -/
def proc? (w : World) (pid : Nat) : Option Proc := w.procs.find? (·.pid == pid)

def setProc (w : World) (p : Proc) : World :=
  { w with procs := w.procs.map fun q => if q.pid == p.pid then p else q }

/-- What follows from the ends of processes: their files are closed, their children belong
to nobody, and those who began them hear of it. -/
def settleEnds (w : World) : World :=
  let fresh := w.procs.filter fun p => !p.isAlive && !(p.ready.isNone && p.descriptors.isEmpty)
  if fresh.isEmpty then w
  else
    let dead := fresh.map (·.pid)
    let parents := fresh.map (·.parent)
    let procs := w.procs.map fun p =>
      let p := if dead.contains p.parent then { p with parent := 1 } else p
      let p := if dead.contains p.pid then
          { p with descriptors := [], ready := none, deadline := none }
        else p
      if parents.contains p.pid then p.receive 17 w.clock else p
    let w := { w with procs := procs.filter fun p => p.isAlive || p.parent != 1 }
    let w := { w with opens := w.opens.filter fun o => w.holds o.1 }
    w.rouse

/-- Send a signal to some of the processes. -/
def send (w : World) (signal : Nat) (chosen : Proc → Bool) : World :=
  let w := { w with
    procs := w.procs.map fun p => if chosen p then p.receive signal w.clock else p }
  w.settleEnds

/-- How the process with a number ended, if it has. -/
def ended? (w : World) (pid : Nat) : Option WaitStatus := (w.proc? pid).bind (·.ended)

end World

end StreamSupervisor.Machine
