import StreamSupervisor.Shell.Builtin.Usage
import StreamSupervisor.Shell.Options
import StreamSupervisor.Shell.Process
import StreamSupervisor.Tool.Format
import StreamSupervisor.Tool.Options

/-! # Basic builtins

Builtins that write something or judge something, and the ways in which all builtins read
their arguments and refuse them.
-/

namespace StreamSupervisor.Shell

open Machine

/-- Refuse the use of a builtin; the rich shell reminds of how it is used. -/
def misuse {α : Type} (text : String) : Work α := do
  let s ← get
  if s.isRich then do
    if !text.isEmpty then complain (s.running ++ ": " ++ text)
    let _ ← write 2 (usageLine s.running)
  else complain text
  throw (.fault 2)

/-- Read single-letter options from the front of some arguments. -/
def letterOptions (letters : List Char) :
    Nat → List String → List Tool.Choice → Option (List Tool.Choice × List String)
  | 0, args, acc => some (acc.reverse, args)
  | _ + 1, [], acc => some (acc.reverse, [])
  | n + 1, a :: rest, acc =>
    if a == "--" then some (acc.reverse, rest)
    else if a.startsWith "-" && a != "-" then
      match Tool.Options.cluster letters rest.head? (a.toList.drop 1) acc with
      | none => none
      | some (acc, usedNext) => letterOptions letters n (if usedNext then rest.drop 1 else rest) acc
    else some (acc.reverse, a :: rest)

/-- The options of a builtin and what follows them. -/
def builtinOptions (letters : String) (args : List String) :
    Work (List Tool.Choice × List String) := do
  match letterOptions letters.toList (args.length + 1) args [] with
  | some r => pure r
  | none => do
    let given := (args.filter (·.startsWith "-")).flatMap fun a => a.toList.drop 1
    let wrong := (given.find? fun c => c == ':' || !letters.toList.contains c).getD '-'
    misuse (if (← get).isRich then "-" ++ wrong.toString ++ ": invalid option"
      else "Illegal option -" ++ wrong.toString)

/-- A number that a builtin is given. -/
def numberArgument (text : String) : Work Nat := do
  match Machine.count? text with
  | some n => pure n
  | none => misuse ("Illegal number: " ++ text)

/-- Write to the standard output; the status tells whether that worked. -/
def sayOut (text : String) : Work Nat := do
  if text.isEmpty then pure 0
  else
    match ← write 1 text with
    | .ok () => pure 0
    | .error why => do
      let s ← get
      complain (s.running ++ (if s.isRich then ": write error: " ++ why.text else ": I/O error"))
      pure 1

def judgeOf (s : State) : Tool.Judge := if s.isRich then .richShell else .plainShell

/-- A name with the text between the brackets behind it, if there are any. -/
def splitIndex? (text : String) : Option (String × String) :=
  match splitAtChar? '[' text with
  | some (name, rest) =>
    if isName name && rest.endsWith "]" then some (name, (rest.dropEnd 1).toString) else none
  | none => none

/-- The key of the element of a variable that an index stands for. -/
def keyFor (name index : String) : Work String := do
  let s ← get
  let v := (s.view? name).getD {}
  if v.isKeyed then pure index
  else do
    let i ← calculate index
    let k := State.indexIn v i
    if k < 0 then do
      complain (name ++ "[" ++ index ++ "]: bad array subscript")
      throw (.abandon 1)
    pure (toString k)

/-- The variable, and perhaps the element of it, that a text names. -/
def placeNamed (text : String) : Work (String × Option String) := do
  match splitIndex? text with
  | none => pure (text, none)
  | some (name, index) => do
    let key ← keyFor name index
    pure (name, some key)

/-- Whether a text can name a variable or an element of one. -/
def isPlace (text : String) : Bool := isName text || (splitIndex? text).isSome

/-- A text filled up with blanks. -/
def filledUp (width : Nat) (text : String) : String :=
  text ++ String.ofList (List.replicate (width - text.length) ' ')

/-! ## Writing -/

def echo (args : List String) : Work Nat := do
  let s ← get
  if s.isRich then
    let isFlags (a : String) : Bool :=
      match a.toList with
      | '-' :: c :: cs => (c :: cs).all fun x => "neE".toList.contains x
      | _ => false
    let flags := args.takeWhile isFlags
    let words := args.drop flags.length
    let letters := flags.flatMap fun f => f.toList.filter (· != '-')
    let escapes := match (letters.filter (· != 'n')).getLast? with
      | some c => c == 'e'
      | none => s.hasLong "xpg_echo"
    let text := " ".intercalate words
    let (text, ended) :=
      if escapes then Tool.Format.unescape .richShell (text.length + 1) text.toList []
      else (text, false)
    sayOut (if ended || letters.contains 'n' then text else text ++ "\n")
  else
    let (words, newline) := match args with
      | "-n" :: rest => (rest, false)
      | args => (args, true)
    let text := " ".intercalate words
    let (text, ended) := Tool.Format.unescape .plainShell (text.length + 1) text.toList []
    sayOut (if ended || !newline then text else text ++ "\n")

def printf (args : List String) : Work Nat := do
  let s ← get
  let (chosen, args) ← builtinOptions (if s.isRich then "v:" else "") args
  match args with
  | [] => misuse (if s.isRich then "" else "usage: printf format [arg ...]")
  | format :: args => do
    let target := Tool.valueOf? chosen ["v"]
    if target.any fun t => !isPlace t then
      complain ("printf: \x60" ++ target.getD "" ++ "\x27: not a valid identifier")
      throw (.fault 2)
    if s.isRich && 1 < (format.splitOn "(").length then tellTime
    let now : Tool.Instant := {
      seconds := (Tool.epoch + (← get).moment / 1000000 : Nat)
      zone := Tool.Zone.ofText ((s.value? "TZ").getD "") }
    let w := Tool.Format.run (judgeOf s) now format args
    for trouble in w.troubles.reverse do
      complain (if s.isRich then "printf: " ++ trouble.2 else trouble.2)
    for (name, count) in w.counted.reverse do
      if isName name then assign name none (toString count) false
    match target with
    | some place => do
      let (name, key) ← placeNamed place
      assign name key w.text false
      pure w.code
    | none => do
      let lost ← sayOut w.text
      pure (if lost != 0 then 1 else w.code)

/-! ## Judging -/

def test (bracketed : Bool) (args : List String) : Work Nat := do
  let s ← get
  let unary (op arg : String) : Work (Option Bool) :=
    if s.isRich then
      match op with
      | "-v" =>
        match splitIndex? arg with
        | some (name, index) => do
          let es := ((s.view? name).map State.elementsOf).getD []
          if index == "@" || index == "*" then pure (some !es.isEmpty)
          else do
            let key ← keyFor name index
            pure (some (es.any (·.1 == key)))
        | none => pure (some (parameterValue? s arg).isSome)
      | "-o" => pure (some (s.isOn arg))
      | "-R" => pure (some ((s.binding? arg).any fun v => v.isReference && v.value.isSome))
      | _ => pure none
    else pure none
  let j := judgeOf s
  match ← Tool.Condition.ofArguments j bracketed args unary with
  | .ok holds => pure (if holds then 0 else 1)
  | .error why => do
    complain ((if !s.isRich then "" else if bracketed then "[: " else "test: ") ++ why.message j)
    pure 2

/-! ## Descriptions -/

def plainBuiltins : List String :=
  [".", ":", "[", "alias", "bg", "break", "cd", "chdir", "command", "continue", "echo", "eval",
    "exec", "exit", "export", "false", "fg", "getopts", "hash", "jobs", "kill", "local",
    "printf", "pwd", "read", "readonly", "return", "set", "shift", "test", "times", "trap",
    "true", "type", "ulimit", "umask", "unalias", "unset", "wait"]

def richBuiltins : List String :=
  [".", ":", "[", "alias", "bg", "bind", "break", "builtin", "caller", "cd", "command",
    "compgen", "complete", "compopt", "continue", "declare", "dirs", "disown", "echo", "enable",
    "eval", "exec", "exit", "export", "false", "fc", "fg", "getopts", "hash", "help", "history",
    "jobs", "kill", "let", "local", "logout", "mapfile", "popd", "printf", "pushd", "pwd",
    "read", "readarray", "readonly", "return", "set", "shift", "shopt", "source", "suspend",
    "test", "times", "trap", "true", "type", "typeset", "ulimit", "umask", "unalias", "unset",
    "wait"]

def isBuiltin (rich : Bool) (name : String) : Bool :=
  if rich then richBuiltins.contains name else plainBuiltins.contains name

/-- Whether a fault in a builtin ends the plain shell. -/
def isSpecialBuiltin (name : String) : Bool :=
  specialBuiltins.contains name || name == "local"

def isKeyword (rich : Bool) (name : String) : Bool :=
  keywords.contains name ||
    rich && (richKeywords.contains name || name == "]]")

/-- Whether a shell runs a builtin under a name. -/
def State.hasBuiltin (s : State) (name : String) : Bool :=
  isBuiltin s.isRich name && !s.disabled.contains name

/-- The times that were used, which are next to nothing. -/
def times : Work Nat := do
  let s ← get
  let line := if s.isRich then "0m0.000s 0m0.000s\n" else "0m0.000000s 0m0.000000s\n"
  sayOut (line ++ line)

end StreamSupervisor.Shell
