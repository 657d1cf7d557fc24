import StreamSupervisor.Machine.Files
import StreamSupervisor.Machine.Signal
import StreamSupervisor.Stream.Exit

/-! # Activities

What a process does from now on: it ends, or it asks the system for something and goes on
with the response, or it splits in two. Activities are written as programs that carry a
state of their own.
-/

namespace StreamSupervisor.Machine

/-- What a process wants to happen when a signal reaches it. -/
inductive Disposition where
  | usual
  | ignored
  /-- The process is told about it. -/
  | handled
deriving DecidableEq, Repr

/-- For what a file is opened. -/
structure Opening where
  readable : Bool := false
  writable : Bool := false
  append : Bool := false
  create : Bool := false
  truncate : Bool := false
  /-- Whether the file must not be there yet. -/
  exclusive : Bool := false

namespace Opening

def reading : Opening := { readable := true }
def writing : Opening := { writable := true, create := true, truncate := true }
def appending : Opening := { writable := true, create := true, append := true }
def both : Opening := { readable := true, writable := true, create := true }

end Opening

inductive FileKind where
  | plain
  | directory
  | link
  | characters
  | queue
deriving DecidableEq, Repr

/-- What can be learned about a file without opening it. -/
structure FileInfo where
  node : Nat
  kind : FileKind
  mode : Nat
  mine : Bool
  size : Nat
  changed : Int
  names : Nat
  /-- The two numbers of a device. -/
  device : Nat × Nat := (0, 0)

/-- How much of something a process may use, and how far it may raise that itself; nothing
stands for no limit. -/
structure Limit where
  soft : Option Nat := none
  hard : Option Nat := none

inductive Request where
  /-- Let others run for some microseconds, and learn which handled signals have come. -/
  | rest (time : Nat)
  /-- Sleep for some microseconds, or until a handled signal comes. -/
  | sleep (time : Option Nat)
  /-- Wait until a descriptor can be read, or for so many microseconds at most. -/
  | await (descriptor time : Nat)
  | openFile (path : String) (opening : Opening)
  | close (descriptor : Nat)
  /-- Open again under the first free number from the given one on. -/
  | duplicate (descriptor least : Nat)
  /-- Open one descriptor's file under another's number. -/
  | replace (source target : Nat)
  | pipe
  | read (descriptor most : Nat)
  /-- Read up to a mark and with it, or what there is before the end. -/
  | readUntil (descriptor : Nat) (mark : Char)
  | write (descriptor : Nat) (text : String)
  /-- Set a file that is read back to before a text that was read last. -/
  | putBack (descriptor : Nat) (text : String)
  | inspect (path : String) (follow : Bool)
  | inspectOpen (descriptor : Nat)
  /-- Ask whether a file may be read (4), written (2) or executed (1). -/
  | access (path : String) (right : Nat)
  | list (path : String)
  | readLink (path : String)
  /-- The path of a file without links in it. -/
  | realPath (path : String)
  | enter (path : String)
  | whereAmI
  | mask (bits : Option Nat)
  | unlink (path : String)
  | removeDirectory (path : String)
  | makeDirectory (path : String) (mode : Nat)
  /-- Make a pipe with a name. -/
  | makeQueue (path : String) (mode : Nat)
  | rename (source target : String)
  | makeLink (target path : String)
  | hardLink (source path : String)
  | changeMode (path : String) (mode : Nat)
  | touch (path : String) (time : Option Int)
  | execute (path : String) (arguments environment : List String)
  /-- Wait for a child to end, or only look whether one has. -/
  | collect (child : Option Nat) (block : Bool)
  | send (process : Int) (signal : Nat)
  | dispose (signal : Nat) (disposition : Disposition)
  | dispositionOf (signal : Nat)
  | identity
  | now
  | beginSession
  /-- The processes that can be seen. -/
  | processes
  /-- The limit that a letter stands for, which may be set. -/
  | limit (letter : Char) (new : Option Limit)

/-- What is told about a process to others. -/
structure ProcessInfo where
  pid : Nat
  parent : Nat
  /-- The name of its program, and the words with which it was begun. -/
  name : String
  words : List String

inductive Response where
  | done
  | number (n : Nat)
  | pair (a b : Nat)
  | text (s : String)
  | names (ns : List String)
  | info (i : FileInfo)
  | processes (l : List ProcessInfo)
  | limit (l : Limit)
  | ended (process : Nat) (status : WaitStatus)
  | signals (signals : List Nat)
  | disposition (d : Disposition)
  | refused (r : Refusal)
  | interrupted
  /-- No child has ended yet. -/
  | nothing

inductive Activity where
  | exit (code : Nat)
  | ask (request : Request) (next : Response → Activity)
  /-- Split off a child, and go on knowing its number. -/
  | fork (child : Activity) (next : Nat → Activity)

/-- A part of an activity that yields a value and works on a state. -/
def Doing (σ α : Type) : Type := σ → (α → σ → Activity) → Activity

namespace Doing

variable {σ α β : Type}

instance : Monad (Doing σ) where
  pure a := fun s k => k a s
  bind m f := fun s k => m s fun a s => f a s k

instance : MonadStateOf σ (Doing σ) where
  get := fun s k => k s s
  set t := fun _ k => k () t
  modifyGet f := fun s k => let (a, t) := f s; k a t

/-- End the process. -/
def leave (code : Nat) : Doing σ α := fun _ _ => .exit code

def ask (r : Request) : Doing σ Response := fun s k => .ask r fun a => k a s

/-- Split off a child that starts with the present state. -/
def fork (child : Doing σ Nat) : Doing σ Nat := fun s k =>
  .fork (child s fun code _ => .exit code) fun pid => k pid s

/-- The activity that begins with a state and ends with the code that is yielded. -/
def begin (s : σ) (m : Doing σ Nat) : Activity := m s fun code _ => .exit code

end Doing

/-- The ways to ask the system for something from within any program. -/
class Asking (m : Type → Type) where
  ask : Request → m Response

instance {σ : Type} : Asking (Doing σ) := ⟨Doing.ask⟩

instance {σ ε : Type} : Asking (ExceptT ε (Doing σ)) := ⟨fun r => ExceptT.lift (Doing.ask r)⟩

section Asking

variable {m : Type → Type} [Monad m] [Asking m]

def askDone (r : Request) : m (Except Refusal Unit) := do
  match ← Asking.ask r with
  | .refused why => pure (.error why)
  | _ => pure (.ok ())

def askNumber (r : Request) : m (Except Refusal Nat) := do
  match ← Asking.ask r with
  | .number n => pure (.ok n)
  | .refused why => pure (.error why)
  | _ => pure (.error .invalid)

def askText (r : Request) : m (Except Refusal String) := do
  match ← Asking.ask r with
  | .text s => pure (.ok s)
  | .refused why => pure (.error why)
  | _ => pure (.error .invalid)

def askNames (r : Request) : m (Except Refusal (List String)) := do
  match ← Asking.ask r with
  | .names ns => pure (.ok ns)
  | .refused why => pure (.error why)
  | _ => pure (.error .invalid)

/-- What is known about the file at a path. -/
def inspect (path : String) (follow : Bool) : m (Except Refusal FileInfo) := do
  match ← Asking.ask (.inspect path follow) with
  | .info i => pure (.ok i)
  | .refused why => pure (.error why)
  | _ => pure (.error .invalid)

def inspect? (path : String) (follow : Bool) : m (Option FileInfo) := do
  match ← Asking.ask (.inspect path follow) with
  | .info i => pure (some i)
  | _ => pure none

def mayAccess (path : String) (right : Nat) : m Bool := do
  match ← Asking.ask (.access path right) with
  | .done => pure true
  | _ => pure false

/-- Write a text, or say why that failed. -/
def write (descriptor : Nat) (text : String) : m (Except Refusal Unit) :=
  askDone (.write descriptor text)

def openFile (path : String) (opening : Opening) : m (Except Refusal Nat) :=
  askNumber (.openFile path opening)

def close (descriptor : Nat) : m Unit := do
  let _ ← Asking.ask (.close descriptor)

/-- How much is read at a time. -/
def blockSize : Nat := 65536

/-- So many times something may be repeated that is taken to be without end. -/
def endless : Nat := 1000000000000

/-- Read all that there is, in front of which some text was read before. -/
def readRest (descriptor : Nat) : Nat → List String → m String
  | 0, parts => pure (String.join parts.reverse)
  | n + 1, parts => do
    match ← Asking.ask (.read descriptor blockSize) with
    | .text s =>
      if s.isEmpty then pure (String.join parts.reverse)
      else readRest descriptor n (s :: parts)
    | .interrupted => readRest descriptor n parts
    | _ => pure (String.join parts.reverse)

def readAll (descriptor : Nat) : m String := readRest descriptor endless []

end Asking

end StreamSupervisor.Machine
