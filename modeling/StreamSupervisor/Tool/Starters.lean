import StreamSupervisor.Tool.Intake

/-! # Starters

Programs that run another program: with another environment, for a limited time, out of
reach of signals, or once for each of many arguments.
-/

namespace StreamSupervisor.Tool

open Machine

/-! ## Executing along the search path -/

/-- The value that an environment gives to a name. -/
def environmentValue? (environment : List String) (name : String) : Option String :=
  (environment.find? fun e => e.startsWith (name ++ "=")).map (dropChars (name.length + 1))

/-- Execute a path; a file without an interpreter is handed to the shell. -/
def executePath (path : String) (arguments environment : List String) : Chore Refusal := do
  match ← Asking.ask (.execute path arguments environment) with
  | .refused .badFormat =>
    match ← Asking.ask (.execute "/bin/sh" ("/bin/sh" :: path :: arguments.drop 1) environment) with
    | .refused why => pure why
    | _ => pure .invalid
  | .refused why => pure why
  | _ => pure .invalid

/-- Become another program that is looked for along the search path; if that fails the reason
comes out. -/
def becomeProgram (name : String) (arguments environment : List String) : Chore Refusal := do
  if name.isEmpty then pure .noEntry
  else if name.contains '/' then executePath name (name :: arguments) environment
  else do
    let path := (environmentValue? environment "PATH").getD "/bin:/usr/bin"
    let mut barred := false
    for d in path.splitOn ":" do
      let full := if d.isEmpty then name else d ++ "/" ++ name
      match ← executePath full (name :: arguments) environment with
      | .denied => barred := true
      | .noEntry | .notDirectory => pure ()
      | why => return why
    pure (if barred then .denied else .noEntry)

/-- The code for a program that could not be run. -/
def startCode (why : Refusal) : Nat := if why = .noEntry then 127 else 126

def startProgram (title name : String) (arguments environment : List String) : Chore Nat := do
  let why ← becomeProgram name arguments environment
  warn (title ++ ": " ++ name ++ ": " ++ why.text)
  pure (startCode why)

/-! ## Another environment -/

/-- The blank that a letter behind a backslash stands for. -/
def blankEscape? : Char → Option Char
  | 'n' => some '\n'
  | 't' => some '\t'
  | 'f' => some '\x0c'
  | 'v' => some '\x0b'
  | 'r' => some '\r'
  | _ => none

/-- Where in a string of arguments the reading is. -/
inductive Enclosure where
  | none
  | single
  | double
deriving DecidableEq

/-- Split a string into arguments as its quotes and backslashes tell. -/
def splitString (environment : List String) :
    Nat → Enclosure → List Char → Option (List Char) → List String → Option (List String)
  | 0, _, _, _, _ => none
  | n + 1, q, cs, word, acc =>
    let close (word : Option (List Char)) : List String :=
      match word with
      | some w => String.ofList w.reverse :: acc
      | none => acc
    let add (c : Char) : Option (List Char) := some (c :: word.getD [])
    match q, cs with
    | .none, [] => some (close word).reverse
    | _, [] => none
    | .none, '\x27' :: rest => splitString environment n .single rest (some (word.getD [])) acc
    | .single, '\x27' :: rest => splitString environment n .none rest word acc
    | .none, '"' :: rest => splitString environment n .double rest (some (word.getD [])) acc
    | .double, '"' :: rest => splitString environment n .none rest word acc
    | .single, '\\' :: c :: rest =>
      if c == '\\' || c == '\x27' then splitString environment n q rest (add c) acc
      else splitString environment n q rest (some (c :: '\\' :: word.getD [])) acc
    | .single, c :: rest => splitString environment n q rest (add c) acc
    | q, '\\' :: c :: rest =>
      if c == 'c' then if q == .double then none else some (close word).reverse
      else if c == '_' then
        if q == .double then splitString environment n q rest (add ' ') acc
        else splitString environment n q rest none (close word)
      else if "\"#$\x27\\".toList.contains c then splitString environment n q rest (add c) acc
      else
        match blankEscape? c with
        | some b => splitString environment n q rest (add b) acc
        | none => none
    | _, ['\\'] => none
    | q, '$' :: rest =>
      match rest with
      | '\x7b' :: more =>
        let name := more.takeWhile (· != '\x7d')
        match more.drop name.length with
        | _ :: after =>
          let value := (environmentValue? environment (String.ofList name)).getD ""
          let w := if value.isEmpty then word else some (value.toList.reverse ++ word.getD [])
          if isName (String.ofList name) then splitString environment n q after w acc else none
        | [] => none
      | _ => none
    | q, c :: rest =>
      if q == .none && isSpace c then splitString environment n q rest none (close word)
      else if q == .none && c == '#' && word.isNone then some (close word).reverse
      else splitString environment n q rest (add c) acc

/-- What the environment tool was told by its options. -/
structure EnvironmentPlan where
  fromNothing : Bool := false
  without : List String := []
  directory : Option String := none
  zero : Bool := false
  rest : List String := []
  /-- The signals to be ignored, and those to be reset. -/
  ignored : List Nat := []

/-- The signals in a list of names. -/
def signalList? (value : Option String) : Option (List Nat) :=
  match value with
  | none => some ((List.range 31).map (· + 1))
  | some names => (names.splitOn ",").mapM fun n => if n.isEmpty then none else signalLong? n

/-- Read the options; splitting a string puts its parts in front of the other arguments. -/
def readEnvironmentPlan (environment : List String) :
    Nat → List String → EnvironmentPlan → Except Nat EnvironmentPlan
  | 0, _, _ => .error 125
  | _ + 1, [], p => .ok p
  | n + 1, a :: rest, p =>
    let split (text : String) (rest : List String) : Except Nat EnvironmentPlan :=
      match splitString environment (text.length + 2) .none text.toList none [] with
      | some words => readEnvironmentPlan environment n (words ++ rest) p
      | none => .error 125
    let withValue (value : Option String) (rest : List String)
        (go : String → List String → Except Nat EnvironmentPlan) : Except Nat EnvironmentPlan :=
      match value, rest with
      | some v, rest => go v rest
      | none, v :: rest => go v rest
      | none, [] => .error 125
    let unset (v : String) (rest : List String) : Except Nat EnvironmentPlan :=
      readEnvironmentPlan environment n rest { p with without := v :: p.without }
    let enter (v : String) (rest : List String) : Except Nat EnvironmentPlan :=
      readEnvironmentPlan environment n rest { p with directory := some v }
    if a == "--" then .ok { p with rest := rest }
    else if a.startsWith "--" then
      let (name, value) : String × Option String :=
        match splitAtChar? '=' (dropChars 2 a) with
        | some (name, v) => (name, some v)
        | none => (dropChars 2 a, none)
      let o : Options := { letters := "", long := [("ignore-environment", .none),
        ("null", .none), ("unset", .required), ("chdir", .required), ("split-string", .required),
        ("block-signal", .optional), ("default-signal", .optional), ("ignore-signal", .optional),
        ("list-signal-handling", .none), ("debug", .none)] }
      match o.longOption? name, value with
      | none, _ => .error 125
      | some ("help", _), _ | some ("version", _), _ => .error 0
      | some (_, .none), some _ => .error 125
      | some ("ignore-environment", _), _ =>
        readEnvironmentPlan environment n rest { p with fromNothing := true }
      | some ("null", _), _ => readEnvironmentPlan environment n rest { p with zero := true }
      | some ("unset", _), v => withValue v rest unset
      | some ("chdir", _), v => withValue v rest enter
      | some ("split-string", _), v => withValue v rest split
      | some ("ignore-signal", _), v =>
        match signalList? v with
        | some signals =>
          readEnvironmentPlan environment n rest { p with ignored := signals ++ p.ignored }
        | none => .error 125
      | some ("default-signal", _), v | some ("block-signal", _), v =>
        match signalList? v with
        | some _ => readEnvironmentPlan environment n rest p
        | none => .error 125
      | some _, _ => readEnvironmentPlan environment n rest p
    else
      match a.toList with
      | '-' :: c :: cs =>
        let more : List String := if cs.isEmpty then rest else ("-" ++ String.ofList cs) :: rest
        let attached : Option String := if cs.isEmpty then none else some (String.ofList cs)
        match c with
        | 'i' => readEnvironmentPlan environment n more { p with fromNothing := true }
        | '0' => readEnvironmentPlan environment n more { p with zero := true }
        | 'v' => readEnvironmentPlan environment n more p
        | 'u' => withValue attached rest unset
        | 'C' => withValue attached rest enter
        | 'S' => withValue attached rest split
        | _ => .error 125
      | ['-'] => .ok { p with fromNothing := true, rest := rest }
      | _ => .ok { p with rest := a :: rest }

def runInEnvironment (args environment : List String) : Chore Nat := do
  match readEnvironmentPlan environment (2 * args.length + 2000) args {} with
  | .error 0 => do
    introduce (args.contains "--version")
    finish 0
  | .error code => do
    warn "env: invalid option"
    pure code
  | .ok p => do
    let isSetting (a : String) : Bool := a.contains '='
    let settings := p.rest.takeWhile isSetting
    let command := p.rest.drop settings.length
    let nameOf (e : String) : String := (e.splitOn "=").headD ""
    let base := if p.fromNothing then [] else environment
    let base := base.filter fun e => !p.without.contains (nameOf e)
    let new := settings.foldl (fun env s =>
      if env.any fun e => nameOf e == nameOf s then
        env.map fun e => if nameOf e == nameOf s then s else e
      else env ++ [s]) base
    if p.without.any fun n => n.isEmpty || n.contains '=' then do
      warn "env: cannot unset"
      pure 125
    else
      match command with
      | [] =>
        if p.directory.isSome then do
          warn "env: must specify command"
          pure 125
        else do
          say (String.join (new.map (· ++ (if p.zero then "\x00" else "\n"))))
          finish 0
      | name :: arguments =>
        if p.zero then do
          warn "env: cannot specify --null with command"
          pure 125
        else do
          for signal in p.ignored do
            if !isStubborn signal then
              let _ ← Asking.ask (.dispose signal .ignored)
          match p.directory with
          | some d =>
            match ← askDone (.enter d) with
            | .ok () => startProgram "env" name arguments new
            | .error why => do
              warn ("env: cannot change directory to '" ++ d ++ "': " ++ why.text)
              pure 125
          | none => startProgram "env" name arguments new

/-! ## Other ranks -/

/-- Whether a text is a whole number with a sign or without one. -/
def isWholeNumber (s : String) : Bool :=
  let (_, ds) := Numeral.sign (s.toList.dropWhile isSpace)
  !ds.isEmpty && ds.all isDigit

def runNicely (args environment : List String) : Chore Nat := do
  /- Old options give the rank right behind one or two signs. -/
  let isOld (a : String) : Bool :=
    match a.toList with
    | '-' :: '-' :: c :: cs | '-' :: '+' :: c :: cs => (c :: cs).all isDigit
    | '-' :: c :: cs => (c :: cs).all isDigit
    | _ => false
  let rec go : Nat → List String → Bool → Except Nat (Bool × List String)
    | 0, args, given => .ok (given, args)
    | _ + 1, [], given => .ok (given, [])
    | n + 1, a :: rest, given =>
      if isOld a then go n rest true
      else if a == "--" then .ok (given, rest)
      else if a == "-n" || a == "--adjustment" then
        match rest with
        | v :: rest => if isWholeNumber v then go n rest true else .error 125
        | [] => .error 125
      else if a.startsWith "--adjustment=" then
        if isWholeNumber (dropChars 13 a) then go n rest true else .error 125
      else if a == "--help" || a == "--version" then .error 0
      else if a.startsWith "-n" then
        if isWholeNumber (dropChars 2 a) then go n rest true else .error 125
      else if a.startsWith "-" && a != "-" then .error 125
      else .ok (given, a :: rest)
  match go (args.length + 1) args false with
  | .error 0 => do
    introduce (args.contains "--version")
    finish 0
  | .error code => do
    warn "nice: invalid option"
    pure code
  | .ok (given, command) =>
    match command with
    | [] =>
      if given then do
        warn "nice: a command must be given with an adjustment"
        pure 125
      else do
        say "0\n"
        finish 0
    | name :: arguments => startProgram "nice" name arguments environment

def runWithoutHangup (args environment : List String) : Chore Nat :=
  withOptions { letters := "", permute := false } 125 args fun _ command => do
    match command with
    | [] => do
      warn "nohup: missing operand"
      pure 125
    | name :: arguments => do
      let _ ← Asking.ask (.dispose 1 .ignored)
      startProgram "nohup" name arguments environment

def runBuffered (args environment : List String) : Chore Nat :=
  withOptions { letters := "i:o:e:", permute := false, long := [("input", .required),
    ("output", .required), ("error", .required)] } 125 args fun chosen command => do
    let modes := chosen.filterMap (·.value)
    let isMode (m : String) : Bool := m == "L" || (m.toList.head?).any isDigit
    if !modes.all isMode then do
      warn "stdbuf: invalid mode"
      pure 125
    else if chosen.any fun c => (c.name == "i" || c.name == "input") && c.value == some "L" then do
      warn "stdbuf: line buffering stdin is meaningless"
      pure 125
    else
      match command with
      | [] => do
        warn "stdbuf: missing operand"
        pure 125
      | name :: arguments =>
        if chosen.isEmpty then do
          warn "stdbuf: you must specify a buffering mode option"
          pure 125
        else startProgram "stdbuf" name arguments environment

/-- Begin a session of one's own and run a program in it. -/
def runInSession (args environment : List String) : Chore Nat :=
  withOptions { letters := "cfwVh", permute := false, long := [("ctty", .none),
    ("fork", .none), ("wait", .none)] } 1 args fun chosen command => do
    if has chosen ["V", "h"] then do
      introduce (has chosen ["V"])
      finish 0
    else
      match command with
      | [] => do
        warn "setsid: no command specified"
        pure 1
      | name :: arguments => do
        if has chosen ["f", "fork"] then do
          let pid ← Doing.fork (do
            let _ ← Asking.ask .beginSession
            startProgram "setsid" name arguments environment)
          if has chosen ["w", "wait"] then
            match ← Asking.ask (.collect (some pid) true) with
            | .ended _ status => pure ((status.code?.map fun c => c.toInt.toNat).getD 1)
            | _ => pure 1
          else pure 0
        else do
          let _ ← Asking.ask .beginSession
          if has chosen ["c", "ctty"] then pure 1
          else startProgram "setsid" name arguments environment

/-! ## A limited time -/

/-- How the process that is watched has ended, or that time was up before. -/
inductive Watched where
  | ended (status : WaitStatus)
  | late
  /-- A signal came that is to be passed on. -/
  | told (signal : Nat)

/-- Wait for a child, but no longer than some time. -/
def watch (pid : Nat) (time : Option Nat) : Nat → Nat → Chore Watched
  | 0, _ => pure .late
  | n + 1, begun => do
    match ← Asking.ask (.collect (some pid) false) with
    | .ended _ status => pure (.ended status)
    | _ => do
      let now ← askNumber .now
      let now := match now with
        | .ok t => t
        | .error _ => begun
      let left := time.map fun t => t - (now - begun)
      if left == some 0 then pure .late
      else do
        let _ ← Asking.ask (.sleep left)
        match ← Asking.ask (.rest 1) with
        | .signals signals =>
          match signals.find? (· != 17) with
          | some s => pure (.told s)
          | none => watch pid time n begun
        | _ => watch pid time n begun

/-- Send a signal to the child that is watched and to the whole group. -/
def passOn (pid signal : Nat) (foreground : Bool) : Chore Unit := do
  if !isStubborn signal then
    let _ ← Asking.ask (.dispose signal .ignored)
  let _ ← Asking.ask (.send (pid : Nat) signal)
  if !foreground then do
    let _ ← Asking.ask (.send 0 signal)
    if signal != 9 && signal != 18 then
      let _ ← Asking.ask (.send 0 18)

def finishWatch (status : WaitStatus) (late preserve : Bool) : Chore Nat := do
  match status.code? with
  | some code => pure (if late && !preserve then 124 else code.toInt.toNat)
  | none => do
    let signal := (status.raw.toInt % 128).toNat
    if !late then do
      let _ ← Asking.ask (.dispose signal .usual)
      match ← Asking.ask .identity with
      | .pair pid _ =>
        let _ ← Asking.ask (.send (pid : Nat) signal)
      | _ => pure ()
      pure (128 + signal)
    else pure (if preserve || signal == 9 then 128 + signal else 124)

/-- Watch on until the child has ended, after a signal was sent to it. -/
def outlast (pid : Nat) (killAfter : Option Nat) (foreground preserve late : Bool) :
    Nat → Chore Nat
  | 0 => pure 1
  | n + 1 => do
    let now ← askNumber .now
    let begun := match now with
      | .ok t => t
      | .error _ => 0
    match ← watch pid killAfter endless begun with
    | .ended status => finishWatch status late preserve
    | .late => do
      passOn pid 9 foreground
      outlast pid none foreground preserve true n
    | .told signal => do
      passOn pid signal foreground
      outlast pid killAfter foreground preserve late n

def microseconds? (s : String) : Option (Option Nat) :=
  match Duration.ofText? s with
  | some (.micros 0) => some none
  | some (.micros n) => some (some n)
  | some .forever => some none
  | none => none

def runLimited (args environment : List String) : Chore Nat :=
  withOptions { letters := "k:s:v", permute := false, long := [("kill-after", .required),
    ("signal", .required), ("foreground", .none), ("preserve-status", .none),
    ("verbose", .none)] } 125 args fun chosen operands => do
    let wrong (why : String) : Chore Nat := do
      warn ("timeout: " ++ why)
      pure 125
    let killAfter := (valueOf? chosen ["k", "kill-after"]).map microseconds?
    let signal := match valueOf? chosen ["s", "signal"] with
      | some name => signalLong? name
      | none => some 15
    match operands with
    | time :: name :: arguments =>
      match microseconds? time, signal with
      | some time, some signal => do
        if killAfter == some none then wrong "invalid time interval"
        else do
          let foreground := has chosen ["foreground"]
          if !foreground then
            let _ ← Asking.ask .beginSession
          for s in [17, 14, 1, 2, 3, 15] do
            let _ ← Asking.ask (.dispose s .handled)
          let pid ← Doing.fork (do
            for s in [17, 14, 1, 2, 3, 15] do
              let _ ← Asking.ask (.dispose s .usual)
            startProgram "timeout" name arguments environment)
          let now ← askNumber .now
          let begun := match now with
            | .ok t => t
            | .error _ => 0
          let preserve := has chosen ["preserve-status"]
          let later := (killAfter.bind id).bind id
          match ← watch pid time endless begun with
          | .ended status => finishWatch status false preserve
          | .late => do
            passOn pid signal foreground
            outlast pid later foreground preserve true 1000
          | .told s => do
            passOn pid s foreground
            outlast pid later foreground preserve false 1000
      | _, _ => wrong "invalid time interval or signal"
    | _ => wrong "missing operand"

end StreamSupervisor.Tool
