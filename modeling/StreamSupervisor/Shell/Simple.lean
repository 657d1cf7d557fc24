import StreamSupervisor.Shell.Braces
import StreamSupervisor.Shell.Builtin.Places
import StreamSupervisor.Shell.Builtin.Names
import StreamSupervisor.Shell.Redirect
import StreamSupervisor.Shell.Script

/-! # Simple commands

Assignments, words and redirections in one: a function, a builtin or a program is called
with the fields that the words expand to.
-/

namespace StreamSupervisor.Shell

open Machine

/-- Whether the arguments of a command are read as assignments where they look like them. -/
def declares (rich : Bool) (name : String) : Bool :=
  ["export", "readonly", "local"].contains name ||
    (if rich then ["declare", "typeset"].contains name else name == "alias")

/-- The descriptor that a standard error goes to which some redirections hide. -/
def shownBehind (saved : List Saved) : Nat :=
  ((saved.find? (·.target == 2)).bind (·.copy)).getD 2

/-- Do something whose traces go where they went before some redirections. -/
def tracedBehind {α : Type} (saved : List Saved) (body : Work α) : Work α := do
  modify fun s => { s with shownOn := shownBehind saved }
  tidily body (modify fun s => { s with shownOn := 2 })

section Calling

variable (ev : Evaluator)

/-! ## Assignments -/

/-- The elements that a list in an assignment has, with their keys and whether the values are
added to old ones. -/
def elementsFrom : List Word → Int → Work (List (String × String × Bool))
  | [], _ => pure []
  | w :: rest, next => do
    match assignment? w with
    | some (_, some index, append, value) => do
      let key ← expandOne (runner ev) false index
      let value ← expandOne (runner ev) true value
      let k ← calculate key
      let more ← elementsFrom rest (k + 1)
      pure ((toString k, value, append) :: more)
    | _ => do
      let fields ← expandFields (runner ev) w
      let here := fields.zipIdx.map fun f => (toString (next + (f.2 : Int)), f.1, false)
      let more ← elementsFrom rest (next + fields.length)
      pure (here ++ more)

/-- The elements of a list in an assignment whose keys are texts, which may stand in front of
the values like words of their own. -/
def keyedElementsFrom : List Word → Work (List (String × String × Bool))
  | [] => pure []
  | [w] => do
    match assignment? w with
    | some (_, some index, append, value) => do
      let key ← expandOne (runner ev) false index
      let value ← expandOne (runner ev) true value
      pure [(key, value, append)]
    | _ => do
      let key ← expandOne (runner ev) false w
      pure [(key, "", false)]
  | w :: v :: rest => do
    match assignment? w with
    | some (_, some index, append, value) => do
      let key ← expandOne (runner ev) false index
      let value ← expandOne (runner ev) true value
      let more ← keyedElementsFrom (v :: rest)
      pure ((key, value, append) :: more)
    | _ => do
      let key ← expandOne (runner ev) false w
      let value ← expandOne (runner ev) true v
      let more ← keyedElementsFrom rest
      pure ((key, value, false) :: more)

/-- Whether an element of a list comes with its key. -/
def isKeyedElement (w : Word) : Bool := (assignment? w).any (·.2.1.isSome)

/-- Put new elements among old ones. -/
def mergeElements (v : Variable) (old : List (String × String)) :
    List (String × String × Bool) → Work (List (String × String))
  | [] => pure old
  | (key, value, append) :: rest => do
    let before := if append then (old.lookup key).getD "" else ""
    let value ← if v.isInteger then do
        let n ← calculate value
        pure (toString n)
      else pure (before ++ value)
    let value := match v.casing with
      | some c => c.apply value
      | none => value
    mergeElements v (insertElement v.isKeyed key value old) rest

/-- Give a variable the elements of a list. -/
def assignList (name : String) (append : Bool) (words : List Word) : Work Unit := do
  let s ← get
  let name := s.resolve State.referenceDepth name
  let v := (s.binding? name).getD {}
  if s.isProtected name then do
    complain (name ++ ": readonly variable")
    throw (.abandon 1)
  let old := if append then State.elementsOf v else []
  let words := if v.isKeyed then words
    else words.flatMap fun w => if isKeyedElement w then [w] else spreadWord w
  let new ← if v.isKeyed then keyedElementsFrom ev words
    else elementsFrom ev words (State.countOf old)
  let isSimple := old.isEmpty && !v.isKeyed && !v.isInteger && v.casing.isNone &&
    !(words.any isKeyedElement)
  let all ← if isSimple then pure (new.map fun e => (e.1, e.2.1))
    else mergeElements v old new
  let t ← get
  set (t.setVariable name { v with elements := some all, value := none, isBare := false })

/-- Carry out an assignment; the flag says whether it is for the environment of a program. -/
def assignWord (w : Word) (exported : Bool) : Work Unit := do
  match assignment? w with
  | some (name, none, append, [.elements words text]) => do
    trace ev (name ++ (if append then "+=(" else "=(") ++ text ++ ")")
    assignList ev name append words
  | some (name, index, append, value) => do
    let text ← expandOne (runner ev) true value
    let sign := if append then "+=" else "="
    match index with
    | none => do
      traceAssignment ev (name ++ sign) text
      store name none text append exported
    | some w => do
      let index ← expandOne (runner ev) false w
      traceAssignment ev (name ++ "[" ++ index ++ "]" ++ sign) text
      let key ← keyFor name index
      store name (some key) text append exported
  | none => pure ()

/-- Assignments that hold for one command only. -/
def assignLocally (assignments : List Word) : Work Unit := do
  for w in assignments do
    match assignment? w with
    | some (name, _, _, _) => do
      hide name
      let s ← get
      match ← (assignWord ev w true).attempt with
      | .ok () => pure ()
      | .error (.abandon code) =>
        if !s.isProtected name then throw (.abandon code)
      | .error stop => throw stop
    | none => pure ()

/-! ## Words -/

/-- The fields of an argument of a command that declares variables. -/
def expandDeclaration (w : Word) : Work (List String) := do
  match assignment? w with
  | some (name, index, append, value) => do
    let index ← match index with
      | some w => do
        let text ← expandOne (runner ev) false w
        pure ("[" ++ text ++ "]")
      | none => pure ""
    let text ← expandOne (runner ev) true value
    pure [name ++ index ++ (if append then "+=" else "=") ++ text]
  | none => expandFields (runner ev) w

/-- Expand words until there is a field, and hand back the words that are left. -/
def expandFirst : List Word → Work (List String × List Word)
  | [] => pure ([], [])
  | w :: rest => do
    let fields ← expandFields (runner ev) w
    if fields.isEmpty then expandFirst rest else pure (fields, rest)

def expandRest (declaring : Bool) : List Word → List (List String) → Work (List String)
  | [], acc => pure acc.reverse.flatten
  | w :: rest, acc => do
    let fields ← if declaring then expandDeclaration ev w else expandFields (runner ev) w
    expandRest declaring rest (fields :: acc)

/-- What a simple command calls, after the words that only say how it is called. -/
structure Call where
  name : String
  arguments : List String
  /-- Whether functions are passed over. -/
  direct : Bool := false
  /-- Whether the standard places are searched. -/
  standard : Bool := false
  /-- Whether it was called by way of another builtin. -/
  wrapped : Bool := false
  /-- Whether only builtins count. -/
  builtinOnly : Bool := false

/-- Strip the words in front of a command that say how it is called. -/
def unwrap (rich : Bool) : Nat → Call → Call
  | 0, c => c
  | n + 1, c =>
    if c.name == "command" then
      let switches := c.arguments.takeWhile fun a =>
        a.startsWith "-" && a != "-" && a != "--" && (a.toList.drop 1).all (· == 'p')
      let rest := c.arguments.drop switches.length
      let rest' := if rest.head? == some "--" then rest.drop 1 else rest
      match rest' with
      | [] => c
      | name :: args =>
        if name.startsWith "-" && name != "-" && rest.head? != some "--" then c
        else
          unwrap rich n { c with
            name := name, arguments := args, direct := true, wrapped := true
            standard := c.standard || !switches.isEmpty }
    else if rich && c.name == "builtin" then
      match c.arguments with
      | "--" :: name :: args | name :: args =>
        unwrap rich n { c with
          name := name, arguments := args, direct := true, wrapped := true, builtinOnly := true }
      | [] => c
    else c

/-! ## Functions -/

/-- How deep functions may call each other. -/
def callDepth (rich : Bool) : Nat := if rich then 12000 else 1000

/-- The traps that a function does not take over unless it is told to. -/
def withheldTraps (s : State) : List Nat :=
  if !s.isRich then []
  else (if s.has 'E' then [] else [faultTrap]) ++
    (if s.has 'T' then [] else [debugTrap, returnTrap])

/-- Run the trap for the end of a function. -/
def runReturnTrap : Work Unit := do
  let s ← get
  match (if s.isRich then s.traps.lookup returnTrap else none) with
  | none | some "" => pure ()
  | some action => do
    set { s with skip := .nothing }
    tidily (runTrap ev action) (modify fun t => { t with skip := s.skip })

/-- Run the trap that comes before every command. -/
def announce : Work Unit := do
  let s ← get
  match (if s.isRich then s.traps.lookup debugTrap else none) with
  | none | some "" => pure ()
  | some action => if s.trapStatus.isNone then runTrap ev action

def callFunction (name : String) (f : Function) (args : List String) (m : Stance) :
    Work Unit := do
  let s ← get
  let most := if s.isRich then ((s.value? "FUNCNEST").bind (·.toNat?)).getD 0 else 0
  if 0 < most && most ≤ s.functionDepth then do
    complain (name ++ ": maximum function nesting level exceeded")
    throw (.abandon 1)
  if callDepth s.isRich ≤ s.functionDepth then
    if s.isRich then do
      let _ ← Asking.ask (.send (s.selfPid : Nat) 11)
      Work.leave 139
    else misuse "Maximum function recursion depth reached"
  let withheld := withheldTraps s
  /- The place among options stays where it is unless it was local to the function. -/
  let keepsPlace (t : State) : Bool := s.isRich && !(t.hidden.headD []).any (·.1 == "OPTIND")
  set { s with
    arguments := args, loops := 0, functionDepth := s.functionDepth + 1
    frames := ⟨name, f.source, s.line, true⟩ :: s.frames
    traps := s.traps.filter fun t => !withheld.contains t.1
    optionIndex := if s.isRich then s.optionIndex else 1
    optionPlace := if s.isRich then s.optionPlace else 0 }
  tidily (do
    announce ev
    ev f.body { tested := m.tested }
    runReturnTrap ev) (modify fun t => { t with
    arguments := s.arguments, loops := s.loops, functionDepth := s.functionDepth
    frames := s.frames
    traps := t.traps ++ s.traps.filter fun e =>
      withheld.contains e.1 && !t.traps.any (·.1 == e.1)
    optionIndex := if keepsPlace t then t.optionIndex else s.optionIndex
    optionPlace := if keepsPlace t then t.optionPlace else s.optionPlace
    skip := match t.skip with
      | .return _ => .nothing
      | skip => skip })

/-! ## Builtins that evaluate -/

/-- Find a file of commands along the search path. -/
def findScript (name : String) : Work (Option String) := do
  let s ← get
  if name.contains '/' then pure (some name)
  else do
    for d in searchPath s false do
      let path := if d.isEmpty then name else d ++ "/" ++ name
      match ← inspect? path true with
      | some i => if i.kind == .plain then return some path
      | none => pure ()
    if s.isRich then
      match ← inspect? name true with
      | some _ => pure (some name)
      | none => pure none
    else pure none

def evaluateFile (args : List String) (m : Stance) : Work Nat := do
  let s ← get
  let (_, args) ← builtinOptions "" args
  if s.has 'r' && (args.headD "").contains '/' then do
    complain "restricted"
    return 1
  let missing (name : String) (why : Refusal) : Work Nat := do
    complain (if s.isRich then name ++ ": " ++ why.text
      else if name.contains '/' then
        "cannot open " ++ name ++ ": " ++ (if why = .noEntry then "No such file" else why.text)
      else name ++ ": not found")
    if s.isRich then pure 1 else throw (.fault 2)
  match args with
  | [] => if s.isRich then misuse "filename argument required" else pure 0
  | name :: rest => do
    match ← findScript name with
    | none => missing name .noEntry
    | some path => do
      match ← openFile path .reading with
      | .error why => missing path why
      | .ok d => do
        let isDirectory ← match ← Asking.ask (.inspectOpen d) with
          | .info i => pure (i.kind == .directory)
          | _ => pure false
        if isDirectory then do
          close d
          if s.isRich then pure 1 else pure 0
        else do
          let text ← collectText d endless []
          close d
          let replaces := s.isRich && !rest.isEmpty
          modify fun t => { t with
            sourceDepth := t.sourceDepth + 1, line := 1, running := path
            frames := ⟨"source", path, t.line, false⟩ :: t.frames
            arguments := if replaces then rest else t.arguments }
          let text := if text.contains '\x00' then
              String.ofList (text.toList.filter (· != '\x00')) else text
          let code ← tidily (evaluateText ev "" text { tested := s.isRich && m.tested })
            (modify fun t => { t with
              sourceDepth := t.sourceDepth - 1, line := s.line, frames := s.frames
              arguments := if replaces then s.arguments else t.arguments })
          modify fun t => { t with
            skip := match t.skip with
              | .return _ => .nothing
              | skip => skip }
          pure code

/-- Leave the shell. -/
def exitShell (args : List String) : Work Nat := do
  let s ← get
  let present := s.trapStatus.getD s.status
  let args := match args with
    | "--" :: rest => if s.isRich then rest else args
    | args => args
  if s.isRich then
    match args with
    | [] => throw (.exit present)
    | a :: rest =>
      match Machine.number? 10 a with
      | some n =>
        if rest.isEmpty then throw (.exit (n % 256).toNat)
        else do
          complain "exit: too many arguments"
          throw (.abandon 1)
      | none => do
        complain ("exit: " ++ a ++ ": numeric argument required")
        throw (.exit 2)
  else
    match args with
    | [] => throw (.exit present)
    | a :: _ => do
      let n ← numberArgument a
      throw (.exit n)

def returnFrom (args : List String) : Work Nat := do
  let s ← get
  if s.isRich && s.functionDepth = 0 && s.sourceDepth = 0 then do
    complain "return: can only \x60return\x27 from a function or sourced script"
    pure 2
  else
    match args with
    | [] => do
      modify fun t => { t with skip := .return false }
      pure (if s.isRich then s.trapStatus.getD s.status else s.status)
    | a :: more =>
      if s.isRich && !more.isEmpty then do
        complain "return: too many arguments"
        throw (.abandon 1)
      else if s.isRich then
        match Machine.number? 10 a with
        | some n => do
          modify fun t => { t with skip := .return true }
          pure (n % 256).toNat
        | none => do
          complain ("return: " ++ a ++ ": numeric argument required")
          modify fun t => { t with skip := .return true }
          pure 2
      else do
        let n ← numberArgument a
        modify fun t => { t with skip := .return true }
        pure n

/-- Leave loops, or go on with their next rounds. -/
def skipLoops (skip : Nat → Skip) (args : List String) : Work Nat := do
  let s ← get
  let n? ← match args with
    | [] => pure (some 1)
    | a :: _ =>
      match Machine.count? a with
      | none =>
        if s.isRich then
          if s.loops = 0 then pure (some 1)
          else if (Machine.number? 10 a).isSome then pure none
          else throw (.exit 128)
        else misuse ("Illegal number: " ++ a)
      | some 0 => if s.isRich then pure none else misuse ("Illegal number: " ++ a)
      | some n => pure (some n)
  match n? with
  | none => do
    complain "loop count out of range"
    if 0 < s.loops then modify fun t => { t with skip := .break t.loops }
    pure 1
  | some n => do
    if 0 < s.loops then modify fun t => { t with skip := skip (Nat.min n t.loops) }
    pure 0

/-- Become another program, if one is named. -/
def executeProgram (args : List String) : Work Nat := do
  let s ← get
  let (chosen, args) ← if s.isRich then builtinOptions "cla:" args
    else do
      let r ← builtinOptions "" args
      pure r
  if s.has 'r' && !args.isEmpty then do
    complain "exec: restricted"
    return 1
  match args with
  | [] => pure 0
  | name :: rest => do
    let environment := if Tool.has chosen ["c"] then [] else s.environment
    let title := (Tool.valueOf? chosen ["a"]).getD name
    let code ← match ← findProgram name false with
      | .path path => become path (title :: rest) environment
      | _ => do
        complain (if s.isRich then "exec: " ++ name ++ ": not found" else name ++ ": not found")
        pure 127
    if s.isRich && s.hasLong "execfail" then pure code else throw (.exit code)

/-- Turn options of the rich shell on or off. -/
def setShellOptions (args : List String) : Work Nat := do
  let (chosen, names) ← builtinOptions "pqsuo" args
  let s ← get
  if Tool.has chosen ["s", "u"] && Tool.has chosen ["o"] then do
    let on := Tool.has chosen ["s"]
    let mut code := 0
    for name in names do
      let s ← get
      match s.setNamed? name on with
      | some t => set t
      | none => do
        complain ("shopt: " ++ name ++ ": invalid option name")
        code := 1
    pure code
  else if Tool.has chosen ["s", "u"] then do
    let on := Tool.has chosen ["s"]
    if names.isEmpty then do
      let shown := habits.filter fun h => s.hasLong h == on
      let _ ← sayOut (String.join (shown.map line))
    for name in names do
      if habits.contains name then modify fun t => t.setLong name on
      else complain ("shopt: " ++ name ++ ": invalid shell option name")
    pure (if names.all habits.contains then 0 else 1)
  else do
    let isKnown (n : String) : Bool :=
      if Tool.has chosen ["o"] then (optionNames true).any (·.1 == n) else habits.contains n
    for name in names.filter fun n => !isKnown n do
      complain ("shopt: " ++ name ++ ": invalid " ++
        (if Tool.has chosen ["o"] then "" else "shell ") ++ "option name")
    if !Tool.has chosen ["q"] then do
      let shown := if names.isEmpty then habits else names.filter isKnown
      let text (n : String) : String :=
        if Tool.has chosen ["p"] then
          "shopt " ++ (if s.isOn n then "-s " else "-u ") ++ n ++ "\n"
        else n ++ String.ofList (List.replicate (15 - n.length) ' ') ++ "\t" ++
          (if s.isOn n then "on" else "off") ++ "\n"
      let _ ← sayOut (String.join (shown.map text))
    pure (if names.all fun n => isKnown n && s.isOn n then 0 else 1)
where
  line (name : String) : String := name ++ "\n"

/-- Run a builtin; its status comes out. -/
def runBuiltin (name : String) (args : List String) (m : Stance) : Work Nat := do
  let s ← get
  match name with
  | ":" | "true" => pure 0
  | "false" => pure 1
  | "." | "source" => evaluateFile ev args m
  | "eval" =>
    let args := if args.head? == some "--" then args.drop 1 else args
    let code ← evaluateText ev "eval" (" ".intercalate args) { tested := m.tested }
    pure code
  | "exec" => executeProgram args
  | "exit" => exitShell args
  | "logout" => do
    complain "logout: not login shell: use \x60exit\x27"
    pure 1
  | "return" => returnFrom args
  | "break" => skipLoops .break args
  | "continue" => skipLoops .continue args
  | "echo" => echo args
  | "printf" => printf args
  | "test" => test false args
  | "[" => test true args
  | "command" => commandDescription args
  | "type" => typeOf args
  | "hash" => hash args
  | "times" => times
  | "alias" => alias_ args
  | "unalias" => unalias args
  | "export" => exportVariables args
  | "readonly" => protectVariables args
  | "unset" => unsetNames args
  | "set" => setShell args
  | "shift" => shift args
  | "local" => if s.isRich then declareVariables true args else localVariables args
  | "declare" | "typeset" => declareVariables false args
  | "let" => letExpressions args
  | "read" => readVariables args
  | "mapfile" | "readarray" =>
    readLines (fun text => do
      let _ ← evaluateText ev "" text {}) args
  | "getopts" => getOptions args
  | "kill" => kill args
  | "trap" => trap args
  | "wait" => wait args
  | "jobs" => jobList args
  | "fg" => foreground true args
  | "bg" => foreground false args
  | "disown" => disown args
  | "cd" | "chdir" => changeDirectory args
  | "pwd" => printDirectory args
  | "umask" => maskRights args
  | "ulimit" => limits args
  | "pushd" => pushDirectory args
  | "popd" => popDirectory args
  | "dirs" => showStack args
  | "shopt" => setShellOptions args
  | "caller" =>
    match args with
    | [] =>
      match s.frames with
      | f :: rest =>
        if f.isFunction || 0 < s.sourceDepth then
          sayOut (toString f.line ++ " " ++ ((rest.head?.map (·.source)).getD "NULL") ++ "\n")
        else pure 1
      | [] => pure 1
    | a :: _ =>
      match a.toNat? with
      | none => misuse "caller: invalid number"
      | some n =>
        match s.frames[n]?, s.frames[n + 1]? with
        | some f, some g =>
          sayOut (toString f.line ++ " " ++ g.name ++ " " ++ g.source ++ "\n")
        | _, _ => pure 1
  | "help" => do
    let topics := args.filter fun a => !a.startsWith "-"
    let known (t : String) : Bool :=
      (richBuiltins ++ keywords ++ richKeywords).any (·.startsWith t)
    for t in topics do
      for entry in synopses.filter fun e => e.1 == t || !isBuiltin true t && e.1.startsWith t do
        let _ ← sayOut (entry.1 ++ ": " ++ entry.2 ++ "\n")
    pure (if topics.isEmpty || topics.any known then 0 else 1)
  | "compgen" => completions args
  | "fc" => pure (if args.contains "-s" then 1 else 0)
  | "enable" => enable args
  | "history" =>
    pure (if s.has 'r' && args.any fun a => ["-r", "-w", "-a", "-n"].contains a then 1 else 0)
  | "builtin" | "complete" | "bind" => pure 0
  | _ => pure 1

/-- Run a builtin and set the status. A fault in one that is not special ends nothing. -/
def callBuiltin (c : Call) (m : Stance) : Work Unit := do
  let s ← get
  set { s with running := c.name }
  let result ← (runBuiltin ev c.name c.arguments m).attempt
  modify fun t => { t with running := s.running }
  match result with
  | .ok code => setStatus code
  | .error (.abandon code) =>
    /- A variable that cannot be set does no more than make these fail. -/
    if s.isRich && ["read", "printf", "mapfile", "readarray"].contains c.name then setStatus code
    else if s.isRich && c.name == "getopts" then setStatus 2
    else throw (.abandon code)
  | .error (.fault code) =>
    if s.isRich && s.hasLong "posix" && !c.wrapped && isSpecialBuiltin c.name then
      throw (.exit code)
    else if s.isRich || c.wrapped || !isSpecialBuiltin c.name then setStatus code
    else throw (.fault code)
  | .error stop => throw stop
  reap

/-! ## Programs -/

def callProgram (c : Call) (m : Stance) : Work Unit := do
  if (← get).has 'r' && (c.name.contains '/' || c.standard) then do
    complain (c.name ++ ": restricted")
    setStatus 1
  else
  match ← findProgram c.name c.standard with
  | .path path => do
    remember c.name path
    let s ← get
    let arguments := c.name :: c.arguments
    if m.last && !s.hasTraps then do
      let code ← become path arguments s.environment
      throw (.exit code)
    else do
      let pid ← Work.fork (become path arguments s.environment)
      let code ← awaitPipeline [pid]
      setStatus code
  | _ => do
    let s ← get
    match (if s.isRich then s.functions.lookup "command_not_found_handle" else none) with
    | some f => callFunction ev "command_not_found_handle" f (c.name :: c.arguments) m
    | none => do
      complain (c.name ++ (if s.isRich then ": command not found" else ": not found"))
      setStatus 127

/-! ## Simple commands -/

/-- The words that some words stand for, with their braces spread out. -/
def State.spreadWords (s : State) (words : List Word) : List Word :=
  if s.isRich && s.has 'B' then words.flatMap spreadWord else words

/-- Whether a call is of a builtin whose assignments last. -/
def keepsAssignments (s : State) (first : String) (isFunction : Bool) : Bool :=
  (!s.isRich || s.hasLong "posix") && !isFunction && isSpecialBuiltin first

def dispatch (c : Call) (function : Option Function) (m : Stance) : Work Unit := do
  let s ← get
  match function with
  | some f => callFunction ev c.name f c.arguments m
  | none =>
    if s.hasBuiltin c.name then callBuiltin ev c m
    else if c.builtinOnly then do
      complain (c.name ++ ": not a shell builtin")
      setStatus 1
    else callProgram ev c m

/-- Lists in the arguments of a command that declares variables are assigned once the
variables are declared, though some may have become read-only by then. -/
def assignDeclared (words : List Word) (barred : List String) : Work Unit := do
  for w in words do
    match assignment? w with
    | some (name, none, append, [.elements ws _]) => do
      let v := ((← get).binding? name).getD {}
      if v.readOnly && !barred.contains name then do
        modify fun t => t.setVariable name { v with readOnly := false }
        assignList ev name append ws
        modify fun t => t.setVariable name { (t.binding? name).getD {} with readOnly := true }
      else assignList ev name append ws
    | _ => pure ()

/-- A declaration without the list that it assigns. -/
def withoutList (w : Word) : Word :=
  match assignment? w with
  | some (name, none, _, [.elements _ _]) => [.plain name]
  | _ => w

def runSimple (assignments words : List Word) (redirections : List Redirection) (m : Stance) :
    Work Unit := do
  modify fun s =>
    { s with outputStatus := none, running := if s.isRich then "" else s.running }
  let s ← get
  let before := s.channels
  /- With the option for it, assignments may stand anywhere in a command. -/
  let isLate (w : Word) : Bool := s.isRich && s.has 'k' && (assignment? w).isSome
  let late := (words.drop 1).filter isLate
  let assignments := assignments ++ late
  let words := words.take 1 ++ (words.drop 1).filter fun w => !isLate w
  let words := s.spreadWords words
  let (front, others) ← expandFirst ev words
  match front with
  | [] => do
    let (saved, ok) ← redirect (runner ev) true redirections
    if s.isRich then modify fun t => { t with lastWord := "" }
    if !ok && s.isRich then do
      for w in assignments do assignWord ev w false
    if ok then do
      tidily (tracedBehind saved do
        for w in assignments do assignWord ev w false
        if !(← get).isRich then traceCall ev []) (restore saved)
      let s ← get
      setStatus (s.outputStatus.getD 0)
    else do
      restore saved
      setStatus (← redirectFault)
  | first :: more => do
    let s ← get
    let here := unwrap s.isRich 100 { name := first, arguments := more }
    let declaring := declares s.isRich here.name
    let others' := if declaring && s.isRich then others.map withoutList else others
    let rest ← expandRest ev declaring others' []
    let c := unwrap s.isRich 100 { name := first, arguments := more ++ rest }
    modify fun t => { t with lastWord := (more ++ rest).getLast?.getD first }
    let s ← get
    let function := if c.direct then none else s.functions.lookup c.name
    let keeps := keepsAssignments s first function.isSome
    let isExec := c.name == "exec" && function.isNone
    let (saved, ok) ← redirect (runner ev) true redirections
    let calling := traceCall ev (first :: (more ++ rest))
    if !ok then do
      restore saved
      if s.isRich then calling
      let code ← redirectFault
      setStatus code
      if keeps then throw (.fault code)
    else if keeps then
      tidily (do
        tracedBehind saved do
          for w in assignments do
            assignWord ev w (c.name == "exec" && !c.arguments.isEmpty)
          calling
        dispatch ev c function m) (do
          if isExec then dropSaved saved else restore saved
          closeChannels before)
    else do
      let frameless := s.isRich && function.isNone && assignments.isEmpty
      if !frameless then modify fun t => { t with hidden := [] :: t.hidden }
      let barred := if declaring then (s.bindings.filter (·.2.readOnly)).map (·.1) else []
      tidily (do
        tracedBehind saved do
          assignLocally ev assignments
          calling
        dispatch ev c function m
        if declaring && s.isRich then assignDeclared ev others barred) (do
          if !frameless then uncover
          if isExec then dropSaved saved else restore saved
          closeChannels before)

end Calling

end StreamSupervisor.Shell
