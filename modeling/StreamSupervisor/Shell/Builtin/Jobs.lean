import StreamSupervisor.Shell.Builtin.Basic

/-! # Builtins for processes

Sending signals, saying what shall be done about them, and waiting for processes in the
background.
-/

namespace StreamSupervisor.Shell

open Machine

/-- The signal that a word stands for; the rich shell knows the long names as well. -/
def signalOf? (rich : Bool) (text : String) : Option Nat :=
  if rich then
    if text.toUpper.startsWith "SIG" then signalNamed? (dropChars 3 text) else signalNumber? text
  else signalNumber? text

/-- The signals whose traps will be run and which cut waiting short. -/
def awaitedTraps (s : State) : List Nat :=
  s.arrived.filter fun n => n != 17 && (s.traps.lookup n).any fun t => !t.isEmpty

/-! ## Sending -/

/-- The signals that have names, with their numbers, as a table of five columns. -/
def signalTable : String :=
  let numbers := (List.range 65).filter fun n => n != 0 && n != 32 && n != 33
  let entry (n : Nat) : String :=
    (if n < 10 then " " else "") ++ toString n ++ ") SIG" ++ signalName n
  String.join (numbers.zipIdx.map fun e =>
    entry e.1 ++ (if e.2 % 5 = 4 || e.1 = 64 then "\n" else "\t"))

def listSignals (args : List String) : Work Nat := do
  let s ← get
  match args with
  | [] =>
    sayOut (if s.isRich then signalTable
      else
        let named := (List.range 65).filter fun n => n != 0 && n != 32 && n != 33
        String.join ("0\n" :: named.map fun n => signalName n ++ "\n"))
  | words => do
    let mut code := 0
    for word in words do
      match Machine.count? word with
      | some n =>
        let n := if 128 < n then n - 128 else n
        if (0 < n || s.isRich) && n < 65 then
          let _ ← sayOut (signalName n ++ "\n")
        else if s.isRich then code := 1
        else misuse "invalid signal number or exit status"
      | none =>
        match (if s.isRich then signalOf? true word else none) with
        | some n =>
          let _ ← sayOut (toString n ++ "\n")
        | none =>
          if s.isRich then code := 1 else misuse "Illegal number"
    pure code

/-- The process that a word stands for: a number, or a job. -/
def processOf (word : String) : Work (Option Int) := do
  let s ← get
  if word.startsWith "%" then
    match job? s word with
    | some j =>
      let pid : Int := (j.pids.head?.getD 0 : Nat)
      pure (some (if s.isRich then pid else -pid))
    | none => if s.isRich then pure none else misuse ("No such job: " ++ word)
  else if s.isRich then pure (Machine.number? 10 word)
  else if word.startsWith "-" then do
    let n ← numberArgument (dropChars 1 word)
    pure (some (-(n : Int)))
  else do
    let n ← numberArgument word
    pure (some n)

def sendSignal (signal : Nat) (words : List String) : Work Nat := do
  let mut code := 0
  for word in words do
    match ← processOf word with
    | none => do
      complain ("kill: " ++ word ++ (if word.startsWith "%" then ": no such job"
        else ": arguments must be process or job IDs"))
      code := 1
    | some pid =>
      match ← askDone (.send pid signal) with
      | .ok () => pure ()
      | .error why => do
        complain (if (← get).isRich then "kill: (" ++ toString pid ++ ") - " ++ why.text
          else why.text ++ "\n")
        code := 1
  breathe
  pure code

/-- The signal and the rest of the arguments of the rich shell's command for sending. -/
def readSending : Nat → Option Nat → List String → Work (Nat × List String)
  | 0, signal, args => pure (signal.getD 15, args)
  | n + 1, signal, args => do
    let invalid : Work (Nat × List String) := do
      let name := match args with
        | "-s" :: name :: _ | "-n" :: name :: _ => name
        | a :: _ => dropChars 1 a
        | [] => ""
      complain ("kill: " ++ name ++ ": invalid signal specification")
      throw (.fault 1)
    match args with
    | "--" :: rest => pure (signal.getD 15, rest)
    | "-s" :: name :: rest | "-n" :: name :: rest =>
      match signalOf? true name with
      | some k => readSending n (some k) rest
      | none => invalid
    | ["-s"] | ["-n"] => invalid
    | a :: rest =>
      match a.toList with
      | '-' :: c :: cs =>
        if signal.isSome then pure (signal.getD 15, args)
        else
          let name := if (c == 's' || c == 'n') && !cs.isEmpty then String.ofList cs
            else String.ofList (c :: cs)
          match signalOf? true (String.ofList (c :: cs)) with
          | some k => readSending n (some k) rest
          | none =>
            match signalOf? true name with
            | some k => readSending n (some k) rest
            | none => invalid
      | _ => pure (signal.getD 15, args)
    | [] => pure (signal.getD 15, [])

def kill (args : List String) : Work Nat := do
  let s ← get
  let usage : Work Nat := misuse (if s.isRich then ""
    else "Usage: kill [-s sigspec | -signum | -sigspec] [pid | job]... or\n" ++
      "kill -l [exitstatus]")
  if s.isRich then
    match args with
    | [] => usage
    | "-l" :: rest | "-L" :: rest => listSignals rest
    | args => do
      let (signal, words) ← readSending (args.length + 1) none args
      if words.isEmpty then usage else sendSignal signal words
  else
    match args with
    | [] => usage
    | first :: rest =>
      if first.startsWith "-" then
        match signalNumber? (dropChars 1 first) with
        | some signal => if rest.isEmpty then usage else sendSignal signal rest
        | none => do
          let (chosen, words) ← builtinOptions "ls:" args
          let named := Tool.valueOf? chosen ["s"]
          let signal := named.bind signalNumber?
          if named.isSome && signal.isNone then misuse "invalid signal number or name"
          else if Tool.has chosen ["l"] then
            if named.isSome then usage else listSignals words
          else if words.isEmpty then usage
          else sendSignal (signal.getD 15) words
      else sendSignal 15 args

/-! ## Traps -/

/-- The number under which the rich shell keeps what is done after failed commands. -/
def faultTrap : Nat := 1000
def returnTrap : Nat := 1001
def debugTrap : Nat := 1002

/-- The name under which a trap is shown. -/
def trapName (rich : Bool) (signal : Nat) : String :=
  if signal = faultTrap then "ERR"
  else if signal = returnTrap then "RETURN"
  else if signal = debugTrap then "DEBUG"
  else (if rich && signal != 0 then "SIG" else "") ++ signalName signal

/-- Show traps, or only some of them. -/
def listTraps (chosen : Option (List Nat)) : Work Nat := do
  let s ← get
  let all := if s.traps.isEmpty then s.outerTraps else s.traps
  let shown := all.filter fun t => chosen.all (·.contains t.1)
  sayOut (String.join (shown.map fun t =>
    "trap -- " ++ (if s.isRich then Quoting.single t.2 else Quoting.singleDoubled t.2) ++ " " ++
      trapName s.isRich t.1 ++ "\n"))

/-- The trap that a word names. -/
def trapNumber? (rich : Bool) (name : String) : Option Nat :=
  match (if rich then name.toUpper else "") with
  | "ERR" => some faultTrap
  | "RETURN" => some returnTrap
  | "DEBUG" => some debugTrap
  | _ => signalOf? rich name

/-- Set what is done when a signal comes; a signal that was ignored from the beginning stays
ignored. -/
def setTrap (signal : Nat) (action : Option String) : Work Unit := do
  let s ← get
  let wasSet := s.traps.any (·.1 == signal)
  let deaf ← if signal = 0 || 64 < signal then pure false
    else if s.deaf.contains signal then pure true
    else if wasSet then pure false
    else
      match ← Asking.ask (.dispositionOf signal) with
      | .disposition .ignored => do
        modify fun s => { s with deaf := signal :: s.deaf }
        pure true
      | _ => pure false
  let others := s.traps.filter (·.1 != signal)
  modify fun s => { s with
    outerTraps := []
    traps := match action with
      | some a => (others ++ [(signal, a)]).mergeSort fun a b => decide (a.1 ≤ b.1)
      | none => others }
  if signal != 0 && signal ≤ 64 && !deaf && !isStubborn signal then
    let d : Disposition :=
      match action with
      | none => .usual
      | some "" => .ignored
      | some _ => .handled
    let _ ← Asking.ask (.dispose signal d)

def trap (args : List String) : Work Nat := do
  let s ← get
  let (chosen, args) ← builtinOptions (if s.isRich then "lpP" else "") args
  if Tool.has chosen ["l"] then sayOut signalTable
  else
    match args with
    | [] => listTraps none
    | first :: rest =>
      if Tool.has chosen ["p", "P"] then do
        let numbers := args.map (trapNumber? s.isRich)
        let _ ← listTraps (some (numbers.filterMap id))
        pure (if numbers.all (·.isSome) then 0 else 1)
      else
        let isReset :=
          if s.isRich then rest.isEmpty || isDigits first && (signalNumber? first).isSome
          else rest.isEmpty || isDigits first && (signalNumber? first).isSome
        let action := if isReset || first == "-" then none else some first
        let names := if isReset then args else rest
        if s.isRich && rest.isEmpty && (signalOf? true first).isNone then misuse ""
        else do
          let mut code := 0
          for name in names do
            match trapNumber? s.isRich name with
            | some n => setTrap n action
            | none => do
              if s.isRich then complain ("trap: " ++ name ++ ": invalid signal specification")
              else
                let _ ← write 2 ("trap: " ++ name ++ ": bad trap\n")
              code := 1
              if !s.isRich then return 1
          pure code

/-! ## Waiting -/

/-- Wait until something holds of the jobs; the signal is handed back that interrupted it. -/
def waitUntil (test : List Job → Bool) : Nat → Work (Option Nat)
  | 0 => pure none
  | n + 1 => do
    let s ← get
    match (awaitedTraps s).getLast? with
    | some signal => pure (some signal)
    | none =>
      if test s.jobs then pure none
      else
        match ← Asking.ask (.collect none true) with
        | .ended pid status => do
          noteEnd pid status
          breathe
          waitUntil test n
        | .interrupted => do
          breathe
          waitUntil test n
        | _ => pure none

def setWaited (chosen : Job → Bool) : Work Unit := modify fun s =>
  { s with jobs := s.jobs.map fun j => if chosen j then { j with waited := true } else j }

def wait (args : List String) : Work Nat := do
  let s ← get
  let (chosen, words) ← builtinOptions (if s.isRich then "fnp:" else "") args
  if Tool.has chosen ["n"] then do
    let wanted := words.map fun w =>
      if w.startsWith "%" then (job? s w).map (·.number)
      else (w.toNat?.bind fun pid => s.jobs.find? (·.pids.contains pid)).map (·.number)
    let counts (j : Job) : Bool :=
      !j.isHelper && !j.waited && (words.isEmpty || wanted.contains (some j.number))
    let told (j : Job) : Work Unit :=
      match Tool.valueOf? chosen ["p"] with
      | some name => assign name none (toString (j.pids.getLast?.getD 0)) false
      | none => pure ()
    if !s.jobs.any counts then pure 127
    else
      match ← waitUntil (fun jobs => jobs.any fun j => counts j && j.isDone) endless with
      | some signal => pure (128 + signal)
      | none => do
        let s ← get
        match s.jobs.find? fun j => counts j && j.isDone with
        | some j => do
          setWaited (·.number == j.number)
          told j
          pure j.code
        | none => pure 127
  else if words.isEmpty then do
    let counts (j : Job) : Bool := !j.isHelper || j.pids.getLast? == s.lastBackground
    match ← waitUntil (fun jobs => (jobs.filter counts).all (·.isDone)) endless with
    | some signal => pure (128 + signal)
    | none => do
      setWaited fun _ => true
      pure 0
  else do
    let mut code := 127
    for word in words do
      let s ← get
      let job ← if word.startsWith "%" then
          match job? s word with
          | some j => pure (some j)
          | none =>
            if s.isRich then do
              complain ("wait: " ++ word ++ ": no such job")
              pure none
            else misuse ("No such job: " ++ word)
        else
          match Machine.count? word with
          | some pid => pure (s.jobs.find? fun j =>
              if s.isRich then j.pids.contains pid else j.pids.getLast? == some pid)
          | none =>
            if s.isRich then do
              complain ("wait: \x60" ++ word ++ "\x27: not a pid or valid job spec")
              return 1
            else misuse ("Illegal number: " ++ word)
      match job with
      | none =>
        if s.isRich then do
          if !word.startsWith "%" then
            complain ("wait: pid " ++ word ++ " is not a child of this shell")
          code := 127
      | some j =>
        match ← waitUntil (fun jobs => jobs.any fun k => k.number == j.number && k.isDone)
            endless with
        | some signal => return 128 + signal
        | none => do
          setWaited (·.number == j.number)
          let s ← get
          code := ((s.jobs.find? (·.number == j.number)).map Job.code).getD 127
    pure code

/-! ## Showing -/

/-- What a signal does, as it is told about a job. -/
def endingText (rich : Bool) (code : Nat) : String :=
  if code = 0 then "Done"
  else if code ≤ 128 then
    if rich then "Exit " ++ toString code else "Done(" ++ toString code ++ ")"
  else
    match code - 128 with
    | 1 => "Hangup"
    | 2 => "Interrupt"
    | 3 => "Quit"
    | 6 => "Aborted"
    | 9 => "Killed"
    | 10 => "User defined signal 1"
    | 11 => "Segmentation fault"
    | 12 => "User defined signal 2"
    | 13 => "Broken pipe"
    | 14 => "Alarm clock"
    | 15 => "Terminated"
    | n => "Signal " ++ toString n

/-- A job as a line; the two latest jobs have signs of their own. -/
def shownJob (s : State) (jobs : List Job) (long : Bool) (j : Job) : String :=
  let sign :=
    if jobs.getLast?.any (·.number == j.number) then "+"
    else if jobs.dropLast.getLast?.any (·.number == j.number) then "-"
    else " "
  let state := if j.isDone then endingText s.isRich j.code else "Running"
  let pid := toString (j.pids.headD 0)
  if s.isRich then
    "[" ++ toString j.number ++ "]" ++ sign ++ " " ++ (if long then pid else "") ++ " " ++
      filledUp 24 state ++ j.text ++ (if j.isDone then "" else " &") ++ "\n"
  else
    let front := "[" ++ toString j.number ++ "] " ++ sign ++ " " ++ (if long then pid ++ " " else "")
    filledUp 33 (front ++ state) ++ "\n"

def jobList (args : List String) : Work Nat := do
  let s ← get
  let (chosen, words) ← builtinOptions (if s.isRich then "lnprsx" else "lp") args
  reap
  let s ← get
  let jobs := if s.jobs.isEmpty then s.outerJobs else s.numberedJobs
  let unknown := words.filter fun w => (job? { s with jobs := jobs } w).isNone
  match unknown with
  | w :: _ =>
    if s.isRich then do
      complain ("jobs: " ++ w ++ ": no such job")
      pure 1
    else misuse ("No such job: " ++ w)
  | [] => do
    let named := words.filterMap (job? { s with jobs := jobs })
    let isShown (j : Job) : Bool :=
      !j.waited && (words.isEmpty || named.any (·.number == j.number)) &&
        (!Tool.has chosen ["r"] || !j.isDone) && !Tool.has chosen ["s"]
    let shown := jobs.filter isShown
    let code ← sayOut (String.join (shown.map fun j =>
      if Tool.has chosen ["p"] then toString (j.pids.headD 0) ++ "\n"
      else shownJob s jobs (Tool.has chosen ["l"]) j))
    let seen := shown.map (·.number)
    if !Tool.has chosen ["p"] then setWaited fun j => j.isDone && seen.contains j.number
    pure code

/-- Bring a job to the front, or let it go on behind; both take control of jobs. -/
def foreground (isFront : Bool) (args : List String) : Work Nat := do
  let s ← get
  let name := if isFront then "fg" else "bg"
  let (_, words) ← builtinOptions "" args
  if s.isRich then
    if !s.has 'm' then do
      complain (name ++ ": no job control")
      pure 1
    else
      match job? s (words.headD "%%") with
      | none => do
        complain (name ++ ": " ++ words.headD "current" ++ ": no such job")
        pure 1
      | some j =>
        if isFront then do
          let _ ← sayOut (j.text ++ "\n")
          wait [toString (j.pids.getLast?.getD 0)]
        else pure 0
  else if words.isEmpty && s.numberedJobs.isEmpty then misuse "No current job"
  else
    match words.find? fun w => (job? s w).isNone with
    | some w => misuse ("No such job: " ++ w)
    | none => misuse "job not created under job control"

/-- Let go of jobs. -/
def disown (args : List String) : Work Nat := do
  let s ← get
  let (chosen, words) ← builtinOptions "ahr" args
  if Tool.has chosen ["a"] then do
    set { s with jobs := [] }
    pure 0
  else
    let words := if words.isEmpty then ["%%"] else words
    let found := words.map fun w =>
      match job? s w with
      | some j => some j
      | none => (w.toNat?).bind fun pid => s.jobs.find? (·.pids.contains pid)
    let numbers := found.filterMap fun j => j.map (·.number)
    set { s with jobs := s.jobs.filter fun j => !numbers.contains j.number }
    pure (if found.all (·.isSome) then 0 else 1)

end StreamSupervisor.Shell
