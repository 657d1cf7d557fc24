import StreamSupervisor.Shell.Simple
import StreamSupervisor.Text.Regex

/-! # Evaluation

What each kind of command does. The evaluator of the commands inside is a parameter of a
step; tying the two together takes a fuel that no command uses up.
-/

namespace StreamSupervisor.Shell

open Machine

section Stepping

variable (ev : Evaluator)

/-! ## Loops -/

/-- Take notice of what is skipped at the end of a round: whether the loop is left, and
whether that is so because of a loop further out or a function. -/
def endRound : Work Bool := do
  let s ← get
  match s.skip with
  | .nothing => pure false
  | .return _ => pure true
  | .break n => do
    set { s with skip := if n ≤ 1 then .nothing else .break (n - 1) }
    pure true
  | .continue n =>
    if n ≤ 1 then do
      set { s with skip := .nothing }
      pure false
    else do
      set { s with skip := .continue (n - 1) }
      pure true

def loopRounds (until_ : Bool) (test body : Command) (tested : Bool) : Nat → Nat → Work Nat
  | 0, code => pure code
  | n + 1, code => do
    ev test { tested := true }
    let s ← get
    if s.skip != .nothing then do
      let code := match s.skip with
        | .return _ => s.status
        | _ => code
      let leaves ← endRound
      if leaves then pure code else loopRounds until_ test body tested n code
    else if (s.status == 0) == until_ then pure code
    else do
      ev body { tested := tested }
      let s ← get
      let leaves ← endRound
      if leaves then pure s.status else loopRounds until_ test body tested n s.status

def eachRounds (name : String) (body : Command) (tested : Bool) (head : String) :
    List String → Nat → Work Nat
  | [], code => pure code
  | value :: rest, _ => do
    let s ← get
    if s.isRich then do
      if s.trapStatus.isNone then set { s with command := head }
      announce ev
      trace ev head
    match ← (store name none value false false).attempt with
    | .ok () => do
      ev body { tested := tested }
      let s ← get
      let leaves ← endRound
      if leaves then pure s.status else eachRounds name body tested head rest s.status
    | .error stop => if (← get).isRich then pure 1 else throw stop

/-- Offer a menu, until there is no more input or a loop is left. -/
def menuRounds (name : String) (body : Command) (tested : Bool) (values : List String) :
    Nat → Nat → Work Nat
  | 0, code => pure code
  | n + 1, _ => do
    let _ ← write 2 (String.join (values.zipIdx.map fun v =>
      toString (v.2 + 1) ++ ") " ++ v.1 ++ "\n") ++ "#? ")
    let code ← readVariables []
    if code != 0 then do
      let _ ← sayOut "\n"
      pure 1
    else do
      let s ← get
      let choice := (s.value? "REPLY").getD ""
      if choice.isEmpty then menuRounds name body tested values n 0
      else do
        let chosen := match choice.toNat? with
          | some (k + 1) => (values[k]?).getD ""
          | _ => ""
        store name none chosen false false
        ev body { tested := tested }
        let s ← get
        let leaves ← endRound
        if leaves then pure s.status else menuRounds name body tested values n s.status

/-- The value of an expression given as parts, if it has one; an empty one counts as one. -/
def valueOf? (parts : List Part) : Work (Option Int) := do
  let text ← expandOne (runner ev) false [.quoted parts]
  trace ev ("(( " ++ writtenExpression text ++ " ))")
  if text.all isSpace then pure (some 1)
  else do
    modify fun s => { s with running := "((" }
    let result ← (calculate text).attempt
    modify fun s => { s with running := "" }
    match result with
    | .ok v => pure (some v)
    | .error (.abandon _) => pure none
    | .error stop => throw stop

def countRounds (test step : List Part) (body : Command) (tested : Bool) : Nat → Nat → Work Nat
  | 0, code => pure code
  | n + 1, code => do
    breathe
    match ← valueOf? ev test with
    | none => pure 1
    | some 0 => pure code
    | some _ => do
      ev body { tested := tested }
      let s ← get
      let leaves ← endRound
      if leaves then pure s.status
      else
        match ← valueOf? ev step with
        | none => pure 1
        | some _ => countRounds test step body tested n s.status

/-- Do something as the body of a loop. -/
def inLoop (rounds : Work Nat) : Work Unit := do
  modify fun s => { s with loops := s.loops + 1 }
  let code ← tidily rounds (modify fun s => { s with loops := s.loops - 1 })
  setStatus code

/-! ## Choices -/

def matchesAny (groups : Bool) (text : List Char) : List Word → Work Bool
  | [] => pure false
  | w :: rest => do
    let s ← get
    let ignoreCase := s.isRich && s.hasLong "nocasematch"
    let p ← patternOf (runner ev) groups ignoreCase w
    if Glob.isMatch p (if ignoreCase then text.map Char.toLower else text) then pure true
    else matchesAny groups text rest

/-- Run the branch whose pattern matches, and those that it falls through to; say whether
there was one. -/
def chooseBranch (text : List Char) (m : Stance) :
    Bool → List Branch → Work Bool
  | _, [] => pure false
  | fallen, .mk patterns _ body ending :: rest => do
    let hit ← if fallen then pure true else matchesAny ev false text patterns
    if hit then do
      let isEnd := rest.isEmpty || ending == .stop
      match body with
      | some c => ev c { m with last := m.last && isEnd }
      | none => setStatus 0
      match ending with
      | .stop => pure true
      | .fallThrough => do
        let _ ← chooseBranch text m true rest
        pure true
      | .testNext => do
        let _ ← chooseBranch text m false rest
        pure true
    else chooseBranch text m false rest

/-! ## Conditions -/

/-- The text of a regular expression in which quoted parts stand for themselves. -/
def expressionText (ps : List Piece) : String :=
  String.join (ps.map fun
    | .fixed s => String.ofList (s.toList.flatMap fun c =>
        if ".[\\()*^$+?\x7b\x7d|".toList.contains c then ['\\', c] else [c])
    | .plain s | .loose s => s
    | .gap _ => " ")

/-- Show a test that is about to be made. -/
def traceTest (negated : Bool) (words : List String) : Work Unit := do
  if (← get).has 'x' then
    let shown := words.map fun w => if w.isEmpty then "''" else w
    trace ev ("[[ " ++ (if negated then "! " else "") ++ " ".intercalate shown ++ " ]]")

/-- The text of a pattern in which quoted characters have a backslash. -/
def patternText (ps : List Piece) : String :=
  String.join (ps.map fun
    | .fixed s => String.ofList (s.toList.flatMap fun c => ['\\', c])
    | .plain s | .loose s => s
    | .gap _ => " ")

def judgeBinary (negated : Bool) (a : Word) (op : String) (b : Word) : Work Bool := do
  let left ← expandOne (runner ev) false a
  let s ← get
  if s.has 'x' then do
    let ps ← expandPieces (runner ev) false b
    let right := match op with
      | "==" | "=" | "!=" => patternText ps
      | "=~" => expressionText ps
      | _ => joinedText s ps
    traceTest ev negated [left, op, right]
  let numbers (test : Int → Int → Bool) : Work Bool := do
    let right ← expandOne (runner ev) false b
    let both : Work Bool := do
      let x ← calculate left
      let y ← calculate right
      pure (test x y)
    modify fun s => { s with running := "[[" }
    let result ← both.attempt
    modify fun s => { s with running := "" }
    match result with
    | .ok holds => pure holds
    | .error (.abandon _) => pure false
    | .error stop => throw stop
  match op with
  | "==" | "=" => matchesAny ev true left.toList [b]
  | "!=" => do
    let hit ← matchesAny ev true left.toList [b]
    pure !hit
  | "=~" => do
    let ps ← expandPieces (runner ev) false b
    match Regex.read true (expressionText ps) true with
    | .error _ => throw (.fault 2)
    | .ok (r, groups) =>
      let ignoreCase := (← get).hasLong "nocasematch"
      match Regex.search? ignoreCase r left.toList (Regex.start left) with
      | none => do
        modify fun s => s.setVariable "BASH_REMATCH" { elements := some [] }
        pure false
      | some (from_, to_) => do
        let whole := String.ofList (left.toList.drop from_.place |>.take (to_.place - from_.place))
        let subs := (List.range groups).map fun i => (to_.group? (i + 1)).getD ""
        let all := whole :: subs
        modify fun s => s.setVariable "BASH_REMATCH"
          { elements := some ((List.range all.length).zip all |>.map fun e => (toString e.1, e.2)) }
        pure true
  | "-eq" => numbers fun x y => x == y
  | "-ne" => numbers fun x y => x != y
  | "-lt" => numbers fun x y => decide (x < y)
  | "-le" => numbers fun x y => decide (x ≤ y)
  | "-gt" => numbers fun x y => decide (y < x)
  | "-ge" => numbers fun x y => decide (y ≤ x)
  | op => do
    let right ← expandOne (runner ev) false b
    match ← Tool.Condition.judgeBinary .richShell left op right with
    | .ok b => pure b
    | .error _ => throw (.fault 2)

/-- Judge a condition; the flag says whether it stands behind a negation. -/
def judge (negated : Bool) : Condition → Work Bool
  | .word w _ => do
    let s ← expandOne (runner ev) false w
    traceTest ev negated ["-n", s]
    pure !s.isEmpty
  | .unary op w _ => do
    let arg ← expandOne (runner ev) false w
    traceTest ev negated [op, arg]
    let code ← test false [op, arg]
    if 1 < code then throw (.fault code) else pure (code == 0)
  | .binary a op b _ => judgeBinary ev negated a op b
  | .not c => do
    let x ← judge true c
    pure !x
  | .and a b => do
    if ← judge false a then judge false b else pure false
  | .or a b => do
    if ← judge false a then pure true else judge false b

/-! ## Pipelines and parts of the shell -/

/-- A command as it is shown among jobs. -/
def jobText (c : Command) : Work String := do
  let s ← get
  pure (if s.isRich then shownCommand { lines := s.linesOf } 0 c else "")

/-- Take notice of the command that comes next: of its line and of how it is written. -/
def notice (c : Command) : Work Unit := do
  let s ← get
  let isNamed := s.isRich && s.trapStatus.isNone
  match c with
  | .simple _ _ _ origin => set { s with
      line := if origin.line = 0 then s.line else origin.line
      command := if isNamed then origin.text else s.command }
  | .calculate .. | .condition _ | .subshell .. => if isNamed then do
      let text ← jobText c
      set { s with command := text }
  | .select _ _ head | .each _ _ _ head | .menu _ _ _ head =>
    if isNamed then set { s with command := head }
  | _ => pure ()

/-- Whether a trap can come before a command. -/
def isAnnounced : Command → Bool
  | .simple .. | .calculate .. | .condition _ | .select .. | .count .. => true
  | _ => false

/-- Announce a simple command that a process of its own is going to run. -/
def announceApart (c : Command) : Work Bool := do
  match c with
  | .simple .. => do
    notice c
    announce ev
    pure true
  | _ => pure false

/-- Begin the processes of a pipeline, of which the first takes its input from a descriptor
and the others from their neighbours. -/
def beginPipeline (background tested : Bool) :
    List Command → Option Nat → Bool → List Nat → Work (List Nat)
  | [], _, _, pids => pure pids.reverse
  | c :: rest, input, isFirst, pids => do
    let output? ← if rest.isEmpty then pure none
      else
        match ← Asking.ask .pipe with
        | .pair a b => pure (some (a, b))
        | _ => pure none
    let announced ← announceApart ev c
    let pid ← Work.fork (conclude ev (do
      becomeSubshell
      if background then becomeBackground isFirst
      match output? with
      | some (a, _) => close a
      | none => pure ()
      match input with
      | some d => moveTo d 0
      | none => pure ()
      match output? with
      | some (_, b) => moveTo b 1
      | none => pure ()
      ev c { tested := tested, last := true, announced := announced }))
    match input with
    | some d => close d
    | none => pure ()
    match output? with
    | some (_, b) => close b
    | none => pure ()
    beginPipeline background tested rest (output?.map (·.1)) false (pid :: pids)

/-- Run the last command of a pipeline in this very shell. -/
def runLastHere (commands : List Command) (c : Command) (m : Stance) : Work Unit := do
  match ← Asking.ask .pipe with
  | .pair a b => do
    let saved ← askNumber (.duplicate 0 10)
    let out ← askNumber (.duplicate 1 10)
    let _ ← Asking.ask (.replace b 1)
    close b
    let pids ← beginPipeline ev false m.tested commands none true []
    match out with
    | .ok d => moveTo d 1
    | .error _ => close 1
    moveTo a 0
    tidily (ev c { tested := true }) (match saved with
      | .ok d => moveTo d 0
      | .error _ => close 0)
    let s ← get
    let last := s.status
    let _ ← awaitPipeline pids
    modify fun t => { t with pipeStatus := t.pipeStatus ++ [last] }
    let s ← get
    let failed := s.pipeStatus.filter (· != 0)
    setStatus (if s.hasLong "pipefail" then failed.getLast?.getD 0 else last)
  | _ => setStatus 1

def runPipeline (commands : List Command) (background : Bool) (m : Stance) : Work Unit := do
  let s ← get
  match commands.reverse with
  | c :: before =>
    if s.isRich && s.hasLong "lastpipe" && !background && !s.has 'm' then
      runLastHere ev before.reverse c m
    else do
      let pids ← beginPipeline ev background (m.tested && !background) commands none true []
      if background then do
        let text ← jobText (.pipeline commands false)
        addJob pids text
        setStatus 0
      else do
        let code ← awaitPipeline pids
        setStatus code
  | [] => setStatus 0

def runSubshell (c : Command) (redirections : List Redirection) (m : Stance) : Work Unit := do
  let body : Work Unit := do
    becomeSubshell
    let (_, ok) ← redirect (runner ev) false redirections
    if ok then ev c { tested := m.tested, last := true }
    else do
      let code ← redirectFault
      throw (.exit code)
  let s ← get
  if m.last && !s.hasTraps then body
  else do
    let pid ← Work.fork (conclude ev body)
    let code ← awaitPipeline [pid]
    setStatus code

def runBackground (c : Command) : Work Unit := do
  let announced ← announceApart ev c
  let pid ← Work.fork (conclude ev (do
    becomeSubshell
    becomeBackground true
    ev c { last := true, announced := announced }))
  let text ← jobText c
  addJob [pid] text
  setStatus 0

/-- Run a command beside the shell, with pipes to it and from it under a name. -/
def runBeside (name : String) (c : Command) : Work Unit := do
  match ← Asking.ask .pipe, ← Asking.ask .pipe with
  | .pair fromIt itsOutput, .pair itsInput toIt => do
    let pid ← Work.fork (conclude ev (do
      becomeSubshell
      close fromIt
      close toIt
      moveTo itsInput 0
      moveTo itsOutput 1
      ev c { last := true }))
    close itsInput
    close itsOutput
    moveTo fromIt 63
    moveTo toIt 60
    modify fun s => (s.setVariable name (State.listOf ["63", "60"])).setVariable (name ++ "_PID")
      { value := some (toString pid) }
    let text ← jobText (.beside name c)
    addJob [pid] text
    setStatus 0
  | _, _ => setStatus 1

/-! ## Times -/

/-- A time in seconds with so many places, perhaps with its minutes apart. -/
def secondsText (places : Nat) (long : Bool) (micros : Nat) : String :=
  let seconds := micros / 1000000
  let (front, seconds) := if long then (toString (seconds / 60) ++ "m", seconds % 60) else ("", seconds)
  let fraction := Tool.padded 6 (micros % 1000000)
  front ++ toString seconds ++
    (if places = 0 then "" else "." ++ String.ofList (fraction.toList.take places)) ++
    (if long then "s" else "")

/-- Write times as a format tells: the time that passed, and the times that were used, which
are next to nothing. -/
def writeTimes (micros : Nat) : Nat → List Char → List String → String
  | 0, _, acc => String.join acc.reverse
  | n + 1, cs, acc =>
    let run := cs.takeWhile (· != '%')
    let acc := String.ofList run :: acc
    match cs.drop run.length with
    | [] => String.join acc.reverse
    | ['%'] => String.join acc.reverse
    | _ :: '%' :: rest => writeTimes micros n rest ("%" :: acc)
    | _ :: 'P' :: rest => writeTimes micros n rest ("0.00" :: acc)
    | _ :: rest =>
      let (places, rest) := match rest with
        | c :: more => if isDigit c then (Nat.min 3 (c.toNat - 48), more) else (3, rest)
        | [] => (3, [])
      let (long, rest) := match rest with
        | 'l' :: more => (true, more)
        | rest => (false, rest)
      match rest with
      | 'R' :: rest => writeTimes micros n rest (secondsText places long micros :: acc)
      | 'U' :: rest | 'S' :: rest => writeTimes micros n rest (secondsText places long 0 :: acc)
      | _ => ""

/-- What is told about the time that a command took. -/
def timesText (s : State) (isPlain : Bool) (micros : Nat) : String :=
  let format := if isPlain then "real %2R\nuser %2U\nsys %2S"
    else (s.value? "TIMEFORMAT").getD "\nreal\t%3lR\nuser\t%3lU\nsys\t%3lS"
  if format.isEmpty then ""
  else writeTimes micros (format.length + 1) format.toList [] ++ "\n"

/-! ## Steps -/

/-- The value of an expression that is a command; an empty one counts as zero. -/
def calculateAlone (expression : List Part) : Work Int := do
  let text ← expandOne (runner ev) false [.quoted expression]
  trace ev ("(( " ++ text ++ " ))")
  modify fun s => { s with running := "((" }
  if text.all isSpace then pure 0 else calculate text

/-- Whether the failure of a command may end the shell. -/
def isChecked : Command → Bool
  | .simple .. | .pipeline .. | .subshell .. | .background _ | .calculate ..
  | .condition _ => true
  | _ => false

def runCommand (c : Command) (m : Stance) : Work Unit := do
  match c with
  | .simple assignments words redirections _ => do
    breathe
    runSimple ev assignments words redirections m
    let s ← get
    if s.isRich then modify fun t => { t with pipeStatus := [t.status] }
  | .pipeline commands background => runPipeline ev commands background m
  | .not c => do
    ev c { tested := true }
    let s ← get
    if s.skip == .nothing then setStatus (if s.status = 0 then 1 else 0)
  | .both a b => do
    ev a { tested := true }
    let s ← get
    if s.status = 0 && s.skip == .nothing then ev b m
  | .either a b => do
    ev a { tested := true }
    let s ← get
    if s.status != 0 && s.skip == .nothing then ev b m
  | .sequence a b => do
    ev a { tested := m.tested }
    let s ← get
    if s.skip == .nothing then ev b m
  | .background c => runBackground ev c
  | .group c => ev c m
  | .subshell c redirections => runSubshell ev c redirections m
  | .redirected c redirections => do
    let before := (← get).channels
    let (saved, ok) ← redirect (runner ev) true redirections
    if ok then
      tidily (ev c { tested := m.tested }) (do
        restore saved
        closeChannels before)
    else do
      restore saved
      setStatus (← redirectFault)
  | .choice test yes no => do
    ev test { tested := true }
    let s ← get
    if s.skip == .nothing then
      if s.status = 0 then ev yes m
      else
        match no with
        | some c => ev c m
        | none => setStatus 0
  | .loop until_ test body => inLoop (loopRounds ev until_ test body m.tested endless 0)
  | .each name words body head => do
    let s ← get
    let values ← match words with
      | none => pure s.arguments
      | some ws => expandRest ev false (s.spreadWords ws) []
    breathe
    if !isName name then do
      complain ("\x60" ++ name ++ "\x27: not a valid identifier")
      setStatus 1
    else inLoop (eachRounds ev name body m.tested head values 0)
  | .select word branches head => do
    if (← get).isRich then trace ev head
    let text ← expandOne (runner ev) false word
    breathe
    let found ← chooseBranch ev text.toList m false branches
    if !found then setStatus 0
  | .define name body => do
    let source := fun (s : State) => (s.frames.head?.map (·.source)).getD "environment"
    modify fun s => { s with
      functions := (name, { body := body, source := source s }) ::
        s.functions.filter (·.1 != name)
      status := 0 }
  | .calculate expression _ => do
    breathe
    let running := (← get).running
    let result ← (calculateAlone ev expression).attempt
    modify fun t => { t with running := running }
    match result with
    | .ok v => setStatus (if v = 0 then 1 else 0)
    | .error (.abandon _) => setStatus 1
    | .error stop => throw stop
  | .count start test step body _ => do
    match ← valueOf? ev start with
    | none => setStatus 1
    | some _ => inLoop (countRounds ev test step body m.tested endless 0)
  | .condition c => do
    breathe
    match ← (judge ev false c).attempt with
    | .ok b => setStatus (if b then 0 else 1)
    | .error (.fault code) => setStatus code
    | .error stop => throw stop
  | .timed isPlain c => do
    tellTime
    let before := (← get).moment
    ev c { tested := m.tested }
    tellTime
    let s ← get
    let _ ← write 2 (timesText s isPlain (s.moment - before))
  | .menu name words body head => do
    let s ← get
    let values ← match words with
      | none => pure s.arguments
      | some ws => expandRest ev false (s.spreadWords ws) []
    trace ev head
    if values.isEmpty then setStatus 0
    else inLoop (menuRounds ev name body m.tested values endless 0)
  | .beside name c => runBeside ev name c

/-- Evaluate a command, with the traps of signals before and after it. -/
def step (c : Command) (m : Stance) : Work Unit := do
  let s ← get
  if s.has 'n' then pure ()
  else do
    runTraps ev
    notice c
    if isAnnounced c && !m.announced then announce ev
    runCommand ev c m
    runTraps ev
  let s ← get
  if isChecked c && s.status != 0 && !m.tested then do
    if s.isRich && !m.announced then
      match s.traps.lookup faultTrap with
      | none | some "" => pure ()
      | some action => runTrap ev action
    if s.has 'e' then throw (.exit s.status)
  if m.last then throw (.exit s.status)

end Stepping

/-- Evaluate commands that are nested no deeper than the fuel tells. -/
def evaluateWithin : Nat → Evaluator
  | 0 => fun _ _ => throw (.fault 2)
  | n + 1 => fun c m => step (evaluateWithin n) c m

def evaluate : Evaluator := evaluateWithin endless

end StreamSupervisor.Shell
