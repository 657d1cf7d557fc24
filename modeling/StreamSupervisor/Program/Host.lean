import StreamSupervisor.Machine.Installation
import StreamSupervisor.Machine.Kernel
import StreamSupervisor.Program.Catalogue
import StreamSupervisor.Supervisor.Launcher

/-! # The host

The machine on which launched programs run. A program is a name to look up or a script
file; launching one logs what is about to be spawned and then meets a fault or gives a
process among the host's others.
-/

namespace StreamSupervisor

open Machine

inductive Program where
  | named (name : String)
  | script (text : String) (mode : Nat)
deriving DecidableEq, Repr

namespace Program

def title : Program → String
  | named name => name
  | script .. => "SCRIPT"

def scriptPath : String := Installation.scriptDirectory ++ "/program"

/-- What is executed. -/
def path : Program → String
  | named name => bytes name
  | script .. => scriptPath

def files : Program → Files
  | named _ => Installation.files
  | script text mode =>
    Installation.files.install scriptPath
      { content := .file (bytes text), mode := mode, mine := true, changed := -1000 }

end Program

namespace Fault

def ofRefusal (r : Refusal) : Fault :=
  let kind : FaultKind :=
    match r with
    | .noEntry => .notFound
    | .denied | .notPermitted => .permissionDenied
    | .listTooLong => .argumentListTooLong
    | .notDirectory => .notADirectory
    | .nameTooLong => .invalidFilename
    | .linkLoop => .filesystemLoop
    | .invalid => .invalidInput
    | _ => .uncategorized
  ⟨kind, r.text ++ " (os error " ++ toString r.number ++ ")"⟩

end Fault

/-- A machine with the program that is launched on it, and the processes that were. -/
structure Host where
  program : Program
  world : World
  pids : List Nat := []

namespace Host

def fresh (p : Program) : Host := { program := p, world := { files := p.files } }

def ownPid : Nat := 4200

def searchPath : List String :=
  ["/usr/local/sbin", "/usr/local/bin", "/usr/sbin", "/usr/bin", "/sbin", "/bin"]

def environment : List String :=
  ["PATH=" ++ ":".intercalate searchPath, "HOME=/work", "PWD=" ++ Installation.workDirectory,
    "USER=user", "LANG=C.UTF-8"]

def directory (f : Files) : Nat :=
  match f.find 0 true Installation.workDirectory with
  | .ok i => i
  | .error _ => 0

/-- Look for a program along the search path; a file that may not be executed is passed
over, but remembered. -/
def searchProgram (f : Files) (name : String) (arguments : List String) :
    Bool → List String → Except Refusal (String × List String)
  | barred, [] => .error (if barred then .denied else .noEntry)
  | barred, d :: rest =>
    match f.program (directory f) (d ++ "/" ++ name) arguments environment with
    | .error .denied => searchProgram f name arguments true rest
    | .error .noEntry | .error .notDirectory => searchProgram f name arguments barred rest
    | result => result

def resolve (f : Files) (name : String) (arguments : List String) :
    Except Refusal (String × List String) :=
  if name.contains '/' then f.program (directory f) name arguments environment
  else if name.isEmpty then .error .noEntry
  else if Files.nameLimit < name.length then .error .nameTooLong
  else searchProgram f name arguments false searchPath

def start (w : World) (path name : String) (arguments : List String) : Nat × World :=
  let pid := w.nextPid
  let opened : OpenFile := { target := .device .null, opening := { readable := true } }
  let written : OpenFile := { target := .device .null, opening := { writable := true } }
  let i := w.nextOpen
  let p : Proc := {
    pid := pid, parent := ownPid, group := ownPid
    doing := Catalogue.programs name arguments environment
    name := shortName path, words := arguments
    ready := some (w.clock + World.executeTime)
    descriptors := [⟨0, i, false⟩, ⟨1, i + 1, false⟩, ⟨2, i + 2, false⟩]
    directory := directory w.files }
  (pid, { w with
    opens := (i, opened) :: (i + 1, written) :: (i + 2, written) :: w.opens
    nextOpen := i + 3, nextPid := pid + 1, procs := w.procs ++ [p] })

/-- Launch the program: no argument may hold a zero character, the program has to be found
and executable, and its arguments may not be too long. -/
def spawn (h : Host) (arguments : List String) : Except Fault (Nat × Host) :=
  let path := h.program.path
  if (path :: arguments).any fun a => a.contains '\x00' then .error .nulByte
  else
    match resolve h.world.files path (path :: arguments.map bytes) with
    | .error why => .error (.ofRefusal why)
    | .ok (name, arguments) =>
      let (pid, w) := start h.world path name arguments
      .ok (pid, { h with world := w, pids := h.pids ++ [pid] })

def patience : Nat := 20000000

def run (h : Host) (stop : World → Bool) (limit : Option Nat) : Host :=
  { h with world := h.world.run Catalogue.programs stop limit patience }

def kill (h : Host) (pid : Nat) : Host :=
  { h with world := h.world.send 9 fun p => p.pid == pid }

instance : Launcher Host where
  launch h r :=
    let events : List Event := [.spawning r.channel h.program.title r.arguments]
    match h.spawn r.arguments with
    | .ok (_, h') =>
      { launcher := h', events := events, child := .ok ⟨some r.index, .untilCancelled⟩ }
    | .error fault => { launcher := h, events := events, child := .error fault }

instance : Runner Host where
  pids := pids
  ended? h := h.world.ended?
  kill := kill
  run h stop := h.run (fun w => stop w.ended?) none

end Host

end StreamSupervisor
