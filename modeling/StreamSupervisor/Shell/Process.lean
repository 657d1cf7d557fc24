import StreamSupervisor.Shell.Expansion

/-! # Processes of a shell

How a shell begins processes, waits for them and remembers how they ended, where it looks
for programs, and how it becomes another program itself.
-/

namespace StreamSupervisor.Shell

open Machine

/-! ## Waiting -/

/-- Remember how a process ended that runs in the background. -/
def noteEnd (pid : Nat) (status : WaitStatus) : Work Unit := modify fun s =>
  { s with
    jobs := s.jobs.map fun j =>
      if j.pids.contains pid then { j with ended := (pid, status) :: j.ended } else j }

/-- Wait until some children have ended; whatever else ends meanwhile is remembered. -/
def awaitAll : Nat → List Nat → List (Nat × WaitStatus) → Work (List (Nat × WaitStatus))
  | 0, _, ended => pure ended
  | n + 1, pids, ended =>
    if pids.all fun p => ended.any (·.1 == p) then pure ended
    else do
      match ← Asking.ask (.collect none true) with
      | .ended pid status =>
        if pids.contains pid then awaitAll n pids ((pid, status) :: ended)
        else do
          noteEnd pid status
          awaitAll n pids ended
      | .interrupted => do
        breathe
        awaitAll n pids ended
      | _ => pure ended

/-- Wait for the processes of a pipeline, whose status is that of the last one. -/
def awaitPipeline (pids : List Nat) : Work Nat := do
  let ended ← awaitAll endless pids []
  let codes := pids.map fun p => ((ended.lookup p).map State.codeOf).getD 127
  if (← get).traps.any (·.1 == 17) then breathe
  modify fun s => { s with pipeStatus := codes }
  let s ← get
  let failed := codes.filter (· != 0)
  pure ((if s.hasLong "pipefail" then failed.getLast? else codes.getLast?).getD 0)

/-- Collect what has ended, without waiting. -/
def reapAll : Nat → Work Unit
  | 0 => pure ()
  | n + 1 => do
    match ← Asking.ask (.collect none false) with
    | .ended pid status => do
      noteEnd pid status
      reapAll n
    | _ => pure ()

def reap : Work Unit := do
  let s ← get
  if s.jobs.isEmpty then pure () else reapAll 1000

namespace Job

def isDone (j : Job) : Bool := j.pids.all fun p => j.ended.any (·.1 == p)

/-- The status of a job is that of its last process. -/
def code (j : Job) : Nat :=
  match j.pids.getLast?.bind fun p => j.ended.lookup p with
  | some status => State.codeOf status
  | none => 127

end Job

/-- Remember a job in the background; it takes the place of one that nobody needs any more. -/
def addJob (pids : List Nat) (text : String) : Work Unit := modify fun s =>
  let spent := s.jobs.find? fun j => j.waited && j.isDone && !j.isHelper
  let jobs := match spent with
    | some old => s.jobs.filter fun j => j.number != old.number
    | none => s.jobs
  let numbers := jobs.map (·.number)
  let free := ((List.range (numbers.length + 1)).find? fun n => !numbers.contains (n + 1)).getD 0
  { s with
    jobs := jobs ++ [{ number := free + 1, pids := pids, text := text }]
    lastBackground := pids.getLast? }

/-- Remember a process that runs a command within a word. -/
def addHelper (pid : Nat) : Work Unit := modify fun s =>
  { s with
    jobs := { number := 0, pids := [pid], isHelper := true } :: s.jobs.filter (!·.isHelper)
    lastBackground := some pid }

/-- The jobs that have numbers. -/
def State.numberedJobs (s : State) : List Job := s.jobs.filter (!·.isHelper)

/-- The job that a word with a percent sign stands for. -/
def job? (s : State) (word : String) : Option Job :=
  let jobs := s.numberedJobs.filter fun j => !(j.waited && j.isDone)
  match word.toList with
  | ['%'] | ['%', '%'] | ['%', '+'] => jobs.getLast?
  | ['%', '-'] => jobs.dropLast.getLast?
  | '%' :: '?' :: rest => jobs.find? fun j => 1 < (j.text.splitOn (String.ofList rest)).length
  | '%' :: rest =>
    match (String.ofList rest).toNat? with
    | some n => jobs.find? (·.number == n)
    | none => jobs.find? fun j => j.text.startsWith (String.ofList rest)
  | _ => none

/-! ## Beginning processes -/

/-- Leave behind what belongs to the shell from which this one was split off. -/
def becomeSubshell : Work Unit := do
  let s ← get
  for t in s.traps do
    if t.1 != 0 && !t.2.isEmpty then do
      let _ ← Asking.ask (.dispose t.1 .usual)
  let kept (t : Nat × String) : Bool :=
    t.2.isEmpty || s.isRich && (t.1 = 1000 && s.has 'E' || 1000 < t.1 && s.has 'T')
  set { s with
    traps := s.traps.filter kept, jobs := [], skip := .nothing, loops := 0
    outerJobs := if s.isRich then s.numberedJobs else []
    arrived := [], isSubshell := true, trapStatus := none, depth := s.depth + 1
    outerTraps := if s.isRich then s.traps else [] }
  if s.isRich then do
    match ← Asking.ask .identity with
    | .pair pid parent => modify fun s => { s with selfPid := pid, parent := parent }
    | _ => pure ()

/-- Do not hear what the keyboard sends, and read nothing. -/
def becomeBackground (withInput : Bool) : Work Unit := do
  for signal in [2, 3] do
    let _ ← Asking.ask (.dispose signal .ignored)
  modify fun s => { s with deaf := 2 :: 3 :: s.deaf }
  if withInput then do
    close 0
    let _ ← openFile "/dev/null" .reading

/-- Put a descriptor in the place of another. -/
def moveTo (source target : Nat) : Work Unit := do
  if source != target then do
    let _ ← Asking.ask (.replace source target)
    close source

/-! ## Programs -/

/-- Where a name leads. -/
inductive Found where
  | path (path : String)
  /-- Something is there, but it is no program. -/
  | barred
  | missing
deriving DecidableEq, Repr

/-- Look for a program in some directories. The plain shell takes the first file, the rich
one prefers a file that may be executed. -/
def searchDirectories (rich : Bool) (name : String) :
    List String → Option String → Work (Option String)
  | [], second => pure second
  | d :: rest, second => do
    let path := if d.isEmpty then (if rich then "./" ++ name else name) else d ++ "/" ++ name
    match ← inspect? path true with
    | some i =>
      if i.kind != .plain then searchDirectories rich name rest second
      else if !rich then pure (some path)
      else if ← mayAccess path 1 then pure (some path)
      else searchDirectories rich name rest (some (second.getD path))
    | none => searchDirectories rich name rest second

/-- The path that programs are looked for along. -/
def searchPath (s : State) (standard : Bool) : List String :=
  if standard then
    ["/usr/local/sbin", "/usr/local/bin", "/usr/sbin", "/usr/bin", "/sbin", "/bin"]
  else ((s.value? "PATH").getD "").splitOn ":"

def findProgram (name : String) (standard : Bool) : Work Found := do
  if name.contains '/' then pure (.path name)
  else if name.isEmpty then pure .missing
  else do
    let s ← get
    let known ← match s.remembered.lookup name with
      | some (path, _) =>
        if s.isRich then pure (some path)
        else do
          let there ← inspect? path true
          pure (if there.isSome then some path else none)
      | none => pure none
    match known with
    | some path => pure (.path path)
    | none =>
      match ← searchDirectories s.isRich name (searchPath s standard) none with
      | some path => pure (.path path)
      | none => pure .missing

/-- Remember where a program was found that is about to be run. -/
def remember (name path : String) : Work Unit := modify fun s =>
  if name.contains '/' then s
  else
    let hits := match s.remembered.lookup name with
      | some (known, hits) => if known == path then hits else 0
      | none => 0
    { s with remembered := (name, path, hits + 1) :: s.remembered.filter fun e => e.1 != name }

/-- Whether a file holds no commands but machine instructions, as its beginning tells: what
matters is its first line, and the second one too where the first names an interpreter. -/
def isInstructions (path : String) : Work Bool := do
  match ← openFile path .reading with
  | .error _ => pure false
  | .ok d => do
    let head ← match ← Asking.ask (.read d 80) with
      | .text t => pure t
      | _ => pure ""
    close d
    let relevant := (head.splitOn "\n").take (if head.startsWith "#!" then 2 else 1)
    pure (head.startsWith "\x7fELF" || relevant.any (·.contains '\x00'))

/-- Whether a file holds nothing at all. -/
def isBlankFile (path : String) : Work Bool := do
  match ← inspect? path true with
  | some i => pure (i.size = 0)
  | none => pure false

/-- The status that tells why a program could not be run. -/
def codeOfRefusal (rich : Bool) (why : Refusal) : Nat :=
  if rich then if why = .noEntry then 127 else 126
  else if [.noEntry, .notDirectory, .linkLoop, .nameTooLong].contains why then 127 else 126

/-- Become another program. A file without an interpreter is taken for commands. If it does
not work the status tells why. -/
def become (path : String) (arguments environment : List String) : Work Nat := do
  let s ← get
  match ← Asking.ask (.execute path arguments environment) with
  | .refused .badFormat => do
    if s.isRich then
      if ← isBlankFile path then return 0
      if ← isInstructions path then
        complain (path ++ ": cannot execute binary file: " ++ Refusal.badFormat.text)
        return 126
    let shell := if s.isRich then "/bin/bash" else "/bin/sh"
    match ← Asking.ask (.execute shell (shell :: path :: arguments.drop 1) environment) with
    | _ => pure 126
  | .refused why => do
    let there ← inspect? path true
    let text :=
      if s.isRich then
        path ++ ": " ++ (match there with
          | some i =>
            if i.kind == .directory then "Is a directory"
            else if why = .noEntry then "cannot execute: required file not found"
            else why.text
          | none => why.text)
      else
        arguments.headD path ++ ": " ++
          (if [.noEntry, .notDirectory].contains why then "not found" else why.text)
    complain text
    pure (codeOfRefusal s.isRich why)
  | _ => pure 126

end StreamSupervisor.Shell
