import StreamSupervisor.Shell.Builtin.Jobs

/-! # Scripts

Texts are read and evaluated line by line. The traps of signals that have come are run
between commands, and the one for the end when a shell ends.
-/

namespace StreamSupervisor.Shell

open Machine

/-- In which position a command stands. -/
structure Stance where
  /-- Whether its status is looked at, so that a failure ends nothing. -/
  tested : Bool := false
  /-- Whether nothing follows, so that the shell ends with it. -/
  last : Bool := false
  /-- Whether the trap that comes before it has been run. -/
  announced : Bool := false

/-- How commands are evaluated. -/
abbrev Evaluator := Command → Stance → Work Unit

def setStatus (code : Nat) : Work Unit := modify fun s => { s with status := code }

/-- The grammar by which a shell reads at present. -/
def State.activeGrammar (s : State) : Grammar :=
  { s.grammar with aliases := s.activeAliases, groups := s.isRich && s.hasLong "extglob" }

/-- Whether something is to be done when a signal comes or when the shell ends. -/
def State.hasTraps (s : State) : Bool := s.traps.any fun t => !t.2.isEmpty

/-- Do something, then tidy up whether it was left off or not. -/
def tidily {α : Type} (body : Work α) (tidy : Work Unit) : Work α := do
  match ← body.attempt with
  | .ok a => do
    tidy
    pure a
  | .error stop => do
    tidy
    throw stop

section Texts

variable (ev : Evaluator)

/-- Evaluate a complete line. In the rich shell a line that is given up ends nothing but
itself, except in a part of the shell. -/
def evaluateLine (c : Command) (m : Stance) : Work Unit := do
  let s ← get
  if s.isRich then
    match ← (ev c m).attempt with
    | .ok () => pure ()
    | .error (.abandon code) => do
      setStatus code
      let s ← get
      if s.isSubshell then throw (.exit code)
    | .error stop => throw stop
  else ev c m

/-- Whether the rich shell may end with a command. -/
def mayBeLast (s : State) : Command → Bool
  | .simple _ _ redirections _ => redirections.isEmpty && !s.hasTraps
  | .both _ c | .either _ c | .sequence _ c => go c
  | _ => false
where
  go : Command → Bool
    | .simple _ _ redirections _ => redirections.isEmpty && !s.hasTraps
    | _ => false

/-- How the plain shell says that it cannot read a text. -/
def plainMisreading : Misreading → String
  | .unexpected _ kind wanted _ =>
    kind ++ " unexpected" ++
      (if wanted.isEmpty then ""
        else if wanted == "word" then " (expecting word)"
        else " (expecting \"" ++ wanted ++ "\")")
  | .unterminated "\x60" _ => "EOF in backquote substitution"
  | .unterminated "\x7d" _ => "Missing \x27\x7d\x27"
  | .unterminated "))" _ => "Missing \x27))\x27"
  | .unterminated _ _ => "Unterminated quoted string"
  | .badName => "Bad function name"
  | .badLoop => "Bad for loop variable"
  | _ => "word unexpected"

/-- How the rich shell says that it cannot read a text, and whether it shows the line. -/
def richMisreading : Misreading → String × Bool
  | .unexpected "end of file" _ _ _ => ("syntax error: unexpected end of file", false)
  | .unexpected token _ _ _ | .inWord token _ =>
    ("syntax error near unexpected token \x60" ++ token ++ "\x27", true)
  | .unterminated mark _ =>
    ("unexpected EOF while looking for matching \x60" ++ (mark.take 1).toString ++ "\x27", false)
  | .openList _ => ("unexpected EOF while looking for matching \x60)\x27", false)
  | .condition _ near _ => ("syntax error near \x60" ++ near ++ "\x27", true)
  | _ => ("syntax error", false)

/-- The line to which a shell points when it cannot read a text. -/
def Misreading.line? : Misreading → Option Nat
  | .unexpected _ _ _ line | .inWord _ line | .unterminated _ line | .openList line
  | .condition _ _ line => some line
  | _ => none

/-- Say that a text cannot be read, which begins on some line and is called by some name. -/
def complainOfText (label : String) (first : Nat) (text : List Char) (why : Misreading) :
    Work Unit := do
  let s ← get
  let line := (why.line?).getD first
  if !s.isRich then do
    set { s with line := line }
    complain ("Syntax error: " ++ plainMisreading why)
    modify fun t => { t with line := s.line }
  else
    let place := s.nameInComplaints ++ ": " ++ (if label == "stdin" then ""
      else (if label.isEmpty then "" else label ++ ": ") ++ "line " ++ toString line ++ ": ")
    match why with
    | .condition reason _ _ =>
      if !reason.isEmpty then
        let _ ← write 2 (place ++ reason ++ "\n")
    | _ => pure ()
    let (reason, isShown) := richMisreading why
    let _ ← write 2 (place ++ reason ++ "\n")
    if isShown then
      let shown := (((String.ofList text).splitOn "\n")[line - first]?).getD ""
      let _ ← write 2 (place ++ "\x60" ++ shown ++ "\x27\n")

/-- Warn that the lines of a redirection went on to the end of the text. -/
def warnUnmarked (unmarked : List (Nat × String)) : Work Unit := do
  if (← get).isRich then
    for (line, mark) in unmarked do
      complain ("warning: here-document at line " ++ toString line ++
        " delimited by end-of-file (wanted \x60" ++ mark ++ "\x27)")

/-- Show the text that has been read, if the shell is asked to show that. -/
def showInput (before after : List Char) : Work Unit := do
  let s ← get
  if s.has 'v' then
    let _ ← write 2 (textBetween before after)

/-- Evaluate the lines of a text that is called by some name; the status is that of the last
command. -/
def evaluateLines (label : String) (m : Stance) : Nat → List Char → Nat → Nat → Work Nat
  | 0, _, _, code => pure code
  | n + 1, cs, line, code => do
    let s ← get
    match readComplete s.activeGrammar s.counter line cs with
    | .error why => do
      complainOfText label line cs why
      match s.isRich, why with
      | false, _ => throw (.fault 2)
      | true, .inWord _ _ => if s.isOneLiner then throw (.exit 127) else refused 2
      | true, .openList _ => refused 1
      | true, _ => refused 2
    | .ok c =>
      if c.isNothing then pure code
      else do
        set { s with counter := c.counter, bodies := c.bodies ++ s.bodies, line := line }
        warnUnmarked c.unmarked
        if s.isRich then showInput cs c.rest
        match c.command with
        | none => evaluateLines label m n c.rest c.line code
        | some command => do
          let last := m.last && c.atEnd && (!s.isRich || mayBeLast s command)
          evaluateLine ev command { m with last := last }
          let s ← get
          if s.skip != .nothing then pure s.status
          else evaluateLines label m n c.rest c.line s.status
where
  refused (code : Nat) : Work Nat := do
    setStatus code
    pure code

/-- Evaluate a text as if it stood on the present line. -/
def evaluateWhole (label text : String) (m : Stance) : Work Nat := do
  let s ← get
  evaluateLines ev label m (text.length + 2) text.toList (if s.isRich then s.line else 1) 0

/-- Do something within the text that is being evaluated. -/
def nested {α : Type} (body : Work α) : Work α := do
  let s ← get
  set { s with nesting := s.nesting + 1 }
  tidily body (modify fun t => { t with nesting := s.nesting, command := s.command })

/-- Evaluate a text within another one. -/
def evaluateText (label text : String) (m : Stance) : Work Nat :=
  nested (evaluateWhole ev label text m)

/-! ## Traps -/

/-- Run what is to be done about a signal; the status stays as it was. -/
def runTrap (action : String) : Work Unit := do
  let s ← get
  let status := s.trapStatus.getD s.status
  set { s with trapStatus := some status }
  tidily (do
    let _ ← evaluateText ev "trap" action {}
    let t ← get
    if t.skip != .return true then setStatus status)
    (modify fun t => { t with trapStatus := s.trapStatus })

/-- End by a signal after all, once the trap for the end has been run. -/
def dieOf (signal : Nat) : Work Unit := do
  let s ← get
  match s.traps.lookup 0 with
  | none | some "" => pure ()
  | some action => do
    set { s with traps := s.traps.filter (·.1 != 0), trapStatus := some (128 + signal) }
    match ← (evaluateWhole ev "exit trap" action {}).attempt with
    | .error (.exit code) => Work.leave code
    | _ => pure ()
  let _ ← Asking.ask (.dispose signal .usual)
  let _ ← Asking.ask (.send (s.selfPid : Nat) signal)
  Work.leave (128 + signal)

def runArrived : List Nat → Work Unit
  | [] => pure ()
  | signal :: rest => do
    let s ← get
    match s.traps.lookup signal with
    | some "" => runArrived rest
    | some action =>
      if s.skip != .nothing then
        modify fun t => { t with arrived := t.arrived ++ (signal :: rest) }
      else do
        match ← (runTrap ev action).attempt with
        | .ok () => runArrived rest
        | .error (.exit code) =>
          throw (.exit (if s.isRich && signal = 17 then s.status else code))
        | .error stop => throw stop
    | none => do
      if s.isRich && signal != 17 then dieOf ev signal
      runArrived rest

/-- Run the traps of the signals that have come. -/
def runTraps : Work Unit := do
  let s ← get
  if s.arrived.isEmpty || s.skip != .nothing then pure ()
  else do
    set { s with arrived := [] }
    runArrived ev (s.arrived.mergeSort fun a b => decide (a ≤ b))

/-- Do some work as a whole shell does: however it is left off, the trap for the end is run,
and the exit code comes out. -/
def conclude (body : Work Unit) : Work Nat := do
  let code ← match ← body.attempt with
    | .ok () => do
      let s ← get
      pure s.status
    | .error (.exit n) | .error (.fault n) | .error (.abandon n) => pure n
  let s ← get
  match s.traps.lookup 0 with
  | none | some "" => pure code
  | some action => do
    set { s with
      traps := s.traps.filter (·.1 != 0), skip := .nothing, status := code
      trapStatus := some code }
    match ← (evaluateWhole ev "exit trap" action {}).attempt with
    | .ok _ => pure code
    | .error (.exit n) | .error (.fault n) => pure n
    | .error (.abandon n) => pure (if s.isRich then code else n)

/-! ## Output of commands -/

/-- Read all that comes, running no traps. -/
def collectText (fd : Nat) : Nat → List String → Work String
  | 0, parts => pure (String.join parts.reverse)
  | n + 1, parts => do
    match ← Asking.ask (.read fd blockSize) with
    | .text s =>
      if s.isEmpty then pure (String.join parts.reverse) else collectText fd n (s :: parts)
    | .interrupted => do
      breathe
      collectText fd n parts
    | _ => pure (String.join parts.reverse)

/-- The text of an output: without line ends behind it and without zeros. -/
def outputText (text : String) : String :=
  let cs := if text.contains '\x00' then text.toList.filter (· != '\x00') else text.toList
  let cs := cs.reverse
  String.ofList (cs.dropWhile (· == '\n')).reverse

/-- The one file whose content a command in the rich shell stands for. -/
def contentRequest? : Command → Option Word
  | .simple [] [] [.mk .usual .input w _] _ => some w
  | _ => none

/-- Run a command in a part of the shell and take its output. -/
def outputOf (c : Command) : Work String := do
  match ← Asking.ask .pipe with
  | .pair reading writing => do
    let pid ← Work.fork (conclude ev (do
      becomeSubshell
      modify fun s =>
        let s := { s with nesting := s.nesting + 1 }
        if s.isRich && !s.hasLong "inherit_errexit" && !s.hasLong "posix" then
          s.setLetter 'e' false
        else s
      close reading
      moveTo writing 1
      ev c { last := true }))
    close writing
    let text ← collectText reading endless []
    close reading
    let code ← awaitPipeline [pid]
    modify fun s => { s with
      outputStatus := some code, status := if s.isRich then code else s.status }
    pure (outputText text)
  | _ => pure ""

/-- Run a command on the other end of a pipe, which is reached by a path. -/
def channelTo (reading : Bool) (c : Command) : Work String := do
  match ← Asking.ask .pipe with
  | .pair a b => do
    let (mine, other, target) := if reading then (a, b, 1) else (b, a, 0)
    let pid ← Work.fork (conclude ev (do
      becomeSubshell
      modify fun s => { s with nesting := s.nesting + 1 }
      close mine
      moveTo other target
      ev c { last := true }))
    close other
    addHelper pid
    let s ← get
    let number := ((List.range 64).map (63 - ·)).find? fun n => !s.channels.contains n
    let number := number.getD 63
    moveTo mine number
    set { s with channels := number :: s.channels }
    pure ("/dev/fd/" ++ toString number)
  | _ => pure ""

/-- Close the ways to commands that were opened since. -/
def closeChannels (before : List Nat) : Work Unit := do
  let s ← get
  for n in s.channels do
    if !before.contains n then close n
  modify fun s => { s with channels := before }

def runner : Runner where
  output
    | none => pure ""
    | some c => do
      let s ← get
      match (if s.isRich then contentRequest? c else none) with
      | some w => do
        let path ← expandOne ⟨fun _ => pure "", fun _ _ => pure ""⟩ false w
        match ← openFile path .reading with
        | .ok d => do
          let text ← collectText d endless []
          close d
          modify fun s => { s with outputStatus := some 0, status := 0 }
          pure (outputText text)
        | .error why => do
          complain (path ++ ": " ++ why.text)
          modify fun s => { s with outputStatus := some 1, status := 1 }
          pure ""
      | none => outputOf ev c
  channel
    | _, none => pure "/dev/null"
    | reading, some c => channelTo ev reading c

/-! ## Traces -/

/-- Show what is about to be done, if the shell is asked to show that. The rich shell repeats
the first sign for each text within another one. -/
def trace (text : String) : Work Unit := do
  let s ← get
  if s.has 'x' then do
    set (s.setLetter 'x' false)
    let sign ← expandOne (runner ev) false (partsOfText s.activeGrammar (s.valueOf "PS4"))
    modify fun t => { t with
      options := s.options, status := s.status, outputStatus := s.outputStatus }
    let front := if s.isRich then
        String.ofList ((sign.toList.take 1).flatMap fun c => List.replicate s.nesting c)
      else ""
    let target := if s.isRich then ((s.value? "BASH_XTRACEFD").bind (·.toNat?)).getD s.shownOn
      else s.shownOn
    let _ ← write target (front ++ sign ++ text ++ "\n")

/-- Show an assignment; the plain shell shows it together with its command. -/
def traceAssignment (target value : String) : Work Unit := do
  let s ← get
  if s.has 'x' then
    if s.isRich then trace ev (target ++ (if value.isEmpty then "" else Quoting.traced value))
    else set { s with assigned := s.assigned ++ [target ++ value] }

/-- Show a command with its arguments. -/
def traceCall (words : List String) : Work Unit := do
  let s ← get
  if s.has 'x' then
    if s.isRich then trace ev (" ".intercalate (words.map Quoting.traced))
    else do
      set { s with assigned := [] }
      trace ev (" ".intercalate (s.assigned ++ words))

end Texts

end StreamSupervisor.Shell
