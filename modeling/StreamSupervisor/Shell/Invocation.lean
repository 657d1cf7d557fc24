import StreamSupervisor.Shell.Evaluate

/-! # Invocation

How a shell begins: what its arguments and environment mean, and from where it takes its
commands.
-/

namespace StreamSupervisor.Shell

open Machine

/-! ## Commands from a descriptor -/

/-- Whether more text could mend what could not be read. -/
def isUnfinished : Misreading → Bool
  | .unterminated _ _ | .openList _ => true
  | .unexpected _ kind _ _ => kind == "end of file"
  | _ => false

/-- Evaluate the lines that come from a descriptor, and read on only when there is no whole
line left. -/
def evaluateStream (fd : Nat) : Nat → List Char → Nat → Bool → Work Unit
  | 0, _, _, _ => pure ()
  | n + 1, cs, line, atEnd => do
    let readOn : Work Unit := do
      match ← Asking.ask (.read fd blockSize) with
      | .text t =>
        if t.isEmpty then evaluateStream fd n cs line true
        else
          let new := t.toList.filter (· != '\x00')
          evaluateStream fd n (cs ++ new) line false
      | .interrupted => do
        breathe
        runTraps evaluate
        evaluateStream fd n cs line false
      | _ => evaluateStream fd n cs line true
    if !atEnd && !cs.contains '\n' then readOn
    else do
      let s ← get
      match readComplete s.activeGrammar s.counter line cs with
      | .error why =>
        if !atEnd && (isUnfinished why || cs.getLast? != some '\n') then readOn
        else do
          complainOfText (if fd = 0 then "stdin" else "") line cs why
          if s.isRich then setStatus 2 else throw (.fault 2)
      | .ok c =>
        if c.atEnd && !atEnd then readOn
        else if c.isNothing then pure ()
        else do
          set { s with counter := c.counter, bodies := c.bodies ++ s.bodies, line := line }
          warnUnmarked c.unmarked
          showInput cs c.rest
          match c.command with
          | none => evaluateStream fd n c.rest c.line atEnd
          | some command => do
            evaluateLine evaluate command {}
            let s ← get
            if s.skip != .nothing then set { s with skip := .nothing }
            else if s.isRich && s.has 't' then pure ()
            else evaluateStream fd n c.rest c.line atEnd

/-! ## Beginnings -/

/-- The variables that an environment gives. -/
def importVariables (environment : List String) : List (String × Variable) :=
  let entries := environment.filterMap fun e =>
    match splitAtChar? '=' e with
    | some (name, value) =>
      if isName name && name != "IFS" then
        some (name, { value := some value, exported := true : Variable })
      else none
    | none => none
  entries.foldl (fun vs e => vs.filter (·.1 != e.1) ++ [e]) []

/-- The functions that an environment gives to the rich shell. -/
def importFunctions (environment : List String) : List (String × Function) :=
  environment.filterMap fun e =>
    match splitAtChar? '=' e with
    | some (key, value) =>
      if key.startsWith "BASH_FUNC_" && key.endsWith "%%" && value.startsWith "() " then
        let name := ((key.drop 10).dropEnd 2).toString
        match readComplete { rich := true } 0 1 (name ++ " " ++ value).toList with
        | .ok { command := some (.define name body), .. } =>
          some (name, { body := body, source := "environment", exported := true })
        | _ => none
      else none
    | none => none

def standardPath : String := "/usr/local/sbin:/usr/local/bin:/usr/sbin:/usr/bin:/sbin:/bin"

/-- The state in which a shell begins. -/
def initial (rich : Bool) (title : String) (environment : List String) : State :=
  let s : State := { grammar := { rich := rich }, title := title
                     bindings := importVariables environment }
  let put (s : State) (name value : String) : State :=
    if (s.binding? name).isSome then s else s.setVariable name { value := some value }
  let s := put s "PATH" standardPath
  let s := s.setVariable "IFS" { value := some " \t\n" }
  let s := s.setVariable "OPTIND" { value := some "1" }
  let s := put s "PS4" "+ "
  if rich then
    let s := { s with lastWord := if title.contains '/' then title else "/usr/bin/" ++ title }
    let s := put s "BASH" (if title.contains '/' then title else "/usr/bin/bash")
    let s := s.setVariable "BASH_VERSION" { value := some "5.2.15(1)-release" }
    let version :=
      [("0", "5"), ("1", "2"), ("2", "15"), ("3", "1"), ("4", "release"),
        ("5", "x86_64-pc-linux-gnu")]
    let s := s.setVariable "BASH_VERSINFO" { elements := some version }
    let s := put s "HOSTNAME" "machine"
    let s := put s "OSTYPE" "linux-gnu"
    let s := put s "MACHTYPE" "x86_64-pc-linux-gnu"
    let s := put s "HOSTTYPE" "x86_64"
    let level := ((s.value? "SHLVL").bind (·.toNat?)).getD 0
    let s := s.setVariable "SHLVL" { value := some (toString (level + 1)), exported := true }
    let s := { s with functions := importFunctions environment }
    let s := if (s.value? "POSIXLY_CORRECT").isSome then s.setLong "posix" true else s
    firstHabits.foldl (fun s h => s.setLong h true) s
  else put (put s "PS1" "$ ") "PS2" "> "

/-- Find out who and where the shell is. -/
def orient : Work Unit := do
  match ← Asking.ask .identity with
  | .pair pid parent =>
    modify fun s =>
      let t : State := { s with pid := pid, selfPid := pid, parent := parent }
      t.setVariable "PPID" { value := some (toString parent) }
  | _ => pure ()
  let s ← get
  let here ← match ← askText .whereAmI with
    | .ok d => pure d
    | .error _ => pure "/"
  let claimed := (s.value? "PWD").getD ""
  let isSame ← do
    if claimed.startsWith "/" then
      match ← inspect? claimed true, ← inspect? "." true with
      | some a, some b => pure (a.node == b.node)
      | _, _ => pure false
    else pure false
  let here := if isSame then claimed else here
  modify fun s => { s with directory := here }
  assign "PWD" none here true

/-- From where the commands come. -/
inductive Source where
  | text (text : String)
  | file (path : String)
  | input
  /-- A text, then the standard input. -/
  | textThenInput (text : String)

/-- Keep a descriptor above those that commands use. -/
def putAside (d : Nat) : Work Nat := do
  let s ← get
  match ← askNumber (.duplicate d (if s.isRich then 255 else 10)) with
  | .ok copy => do
    close d
    pure copy
  | .error _ => pure d

/-- Take the commands from a file. -/
def evaluateScript (path : String) : Work Unit := do
  let s ← get
  match ← openFile path .reading with
  | .error why => do
    let _ ← write 2 (if s.isRich then s.shellName ++ ": " ++ path ++ ": " ++ why.text ++ "\n"
      else s.shellName ++ ": 0: cannot open " ++ path ++ ": " ++
        (if why = .noEntry then "No such file" else why.text) ++ "\n")
    throw (.exit (if !s.isRich then 2 else if s.has 'e' then 1
      else if why = .noEntry then 127 else 126))
  | .ok d => do
    let isDirectory ← match ← Asking.ask (.inspectOpen d) with
      | .info i => pure (i.kind == .directory)
      | _ => pure false
    if s.isRich then
      if isDirectory then
        let _ ← write 2 (path ++ ": " ++ path ++ ": Is a directory\n")
        throw (.exit 126)
      else if ← isInstructions path then
        let _ ← write 2 (path ++ ": " ++ path ++ ": cannot execute binary file\n")
        throw (.exit 126)
    let d ← putAside d
    modify fun s => { s with frames := [⟨"main", path, 0, false⟩] }
    evaluateStream d endless [] 1 false

def evaluateSource : Source → Work Unit
  | .text text => do
    let _ ← evaluateWhole evaluate "-c" text { last := true }
  | .textThenInput text => do
    let _ ← evaluateWhole evaluate "-c" text {}
    let s ← get
    if s.skip == .nothing then evaluateStream 0 endless [] 1 false
  | .file path => evaluateScript path
  | .input => evaluateStream 0 endless [] 1 false

/-- What the arguments behind the options mean. -/
def readSource (r : OptionsRead) (title : String) : Option (State × Source) :=
  let s := r.shell
  if r.isCommand then
    match r.rest with
    | [] => none
    | text :: rest =>
      let s := { s with
        title := rest.headD title, arguments := rest.drop 1, isOneLiner := true }
      if s.has 's' && !s.isRich then some (s, .textThenInput text) else some (s, .text text)
  else
    match s.has 's', r.rest with
    | false, path :: rest =>
      some ({ s with title := path, shellName := title, arguments := rest }, .file path)
    | _, rest => some ({ s.setLetter 's' true with arguments := rest }, .input)

/-- A restricted shell with the variables marked that must stay as they are in it. -/
def State.barred (s : State) : State :=
  if s.isRich && s.has 'r' then
    let bar (s : State) (name : String) : State :=
      s.setVariable name { (s.binding? name).getD {} with readOnly := true }
    barredVariables.foldl bar (s.setLong "restricted_shell" true)
  else s

/-- A shell's activity from its state and source on. -/
def activity (s : State) (source : Source) : Activity :=
  Doing.begin s.barred (do
    match ← (do
        orient
        conclude evaluate (evaluateSource source) : Work Nat).run with
    | .ok code => pure code
    | .error _ => pure 2)

/-- End at once with a code. -/
def refusal (title text : String) (code : Nat) : Activity :=
  Doing.begin () (do
    let _ ← write 2 (title ++ ": " ++ text ++ "\n")
    pure code)

/-- The plain shell. -/
def plain (arguments environment : List String) : Activity :=
  let title := arguments.headD "sh"
  let args := arguments.drop 1
  let s := initial false title environment
  match readOptions true (args.length + 1) args { shell := s } with
  | .error why => refusal (title ++ ": 0") (why.message false) 2
  | .ok r =>
    match readSource r title with
    | none => refusal (title ++ ": 0") "-c requires an argument" 2
    | some (s, source) => activity s source

/-- The long options of the rich shell, with whether they take a value. -/
def longFlags : List (String × Bool) :=
  [("debug", false), ("debugger", false), ("dump-po-strings", false), ("dump-strings", false),
    ("help", false), ("init-file", true), ("login", false), ("noediting", false),
    ("noprofile", false), ("norc", false), ("posix", false), ("pretty-print", false),
    ("protected", false), ("rcfile", true), ("restricted", false), ("verbose", false),
    ("version", false), ("wordexp", false)]

inductive LongFlags where
  | rest (args seen : List String)
  | info
  | wrong

/-- Pass over the long options in front of the others, but remember their names. -/
def dropLongFlags : Nat → List String → List String → LongFlags
  | 0, args, seen => .rest args seen
  | _ + 1, [], seen => .rest [] seen
  | n + 1, a :: rest, seen =>
    if !a.startsWith "-" || a == "-" || a == "--" then .rest (a :: rest) seen
    else
      let isLong := a.startsWith "--"
      let name := dropChars (if isLong then 2 else 1) a
      match longFlags.lookup name with
      | some takesValue =>
        if name == "help" || name == "version" then .info
        else if takesValue then
          (if rest.isEmpty then .wrong else dropLongFlags n (rest.drop 1) (name :: seen))
        else dropLongFlags n rest (name :: seen)
      | none => if isLong then .wrong else .rest (a :: rest) seen

/-- Whether some arguments tell the shell to end at the first failure, before one that it does
not know. -/
def stopsEarly (args : List String) : Bool :=
  let isKnown (c : Char) : Bool :=
    (richOptionNames.any fun o => o.2 == some c) || "coOirslD".toList.contains c
  match args with
  | a :: rest =>
    match a.toList with
    | '-' :: cs =>
      let known := cs.takeWhile isKnown
      known.contains 'e' || (known.length == cs.length && stopsEarly rest)
    | _ => false
  | [] => false

/-- The rich shell. -/
def rich (arguments environment : List String) : Activity :=
  let title := arguments.headD "bash"
  match dropLongFlags (arguments.length + 1) (arguments.drop 1) [] with
  | .wrong => refusal title "invalid option" 2
  | .info =>
    Doing.begin () (do
      match ← write 1 "version\n" with
      | .ok () => pure 0
      | .error _ => pure 1)
  | .rest args seen =>
    let s := initial true title environment
    let s := (s.setLetter 'h' true).setLetter 'B' true
    let s := if seen.contains "posix" then s.setLong "posix" true else s
    let isRestricted := seen.contains "restricted" || title == "rbash" || title.endsWith "/rbash"
    let s := if isRestricted then s.setLetter 'r' true else s
    match readOptions true (args.length + 1) args { shell := s } with
    | .error why => refusal title (why.message true) (if stopsEarly args then 1 else 2)
    | .ok r =>
      if r.lists then refusal title "" 0
      else
        match readSource r title with
        | none => refusal title "-c: option requires an argument" 2
        | some (s, source) => activity s source

end StreamSupervisor.Shell
