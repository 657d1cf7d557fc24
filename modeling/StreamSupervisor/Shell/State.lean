import StreamSupervisor.Machine.Activity
import StreamSupervisor.Machine.Numeral
import StreamSupervisor.Shell.Reader
import StreamSupervisor.Shell.Shown

/-! # The state of a shell

Variables, functions, options and whatever else a shell keeps while it runs its commands,
and the ways in which it leaves off what it is doing.
-/

namespace StreamSupervisor.Shell

open Machine

/-- The names of the rich shell's options, with their letters. -/
def richOptionNames : List (String × Option Char) :=
  [("allexport", some 'a'), ("braceexpand", some 'B'), ("emacs", none), ("errexit", some 'e'),
    ("errtrace", some 'E'), ("functrace", some 'T'), ("hashall", some 'h'),
    ("histexpand", some 'H'), ("history", none), ("ignoreeof", none),
    ("interactive-comments", none), ("keyword", some 'k'), ("monitor", some 'm'),
    ("noclobber", some 'C'), ("noexec", some 'n'), ("noglob", some 'f'), ("nolog", none),
    ("notify", some 'b'), ("nounset", some 'u'), ("onecmd", some 't'), ("physical", some 'P'),
    ("pipefail", none), ("posix", none), ("privileged", some 'p'), ("verbose", some 'v'),
    ("vi", none), ("xtrace", some 'x')]

/-- The names of the rich shell's habits. -/
def habits : List String :=
  ["autocd", "assoc_expand_once", "cdable_vars", "cdspell", "checkhash", "checkjobs",
    "checkwinsize", "cmdhist", "compat31", "compat32", "compat40", "compat41", "compat42",
    "compat43", "compat44", "complete_fullquote", "direxpand", "dirspell", "dotglob",
    "execfail", "expand_aliases", "extdebug", "extglob", "extquote", "failglob",
    "force_fignore", "globasciiranges", "globskipdots", "globstar", "gnu_errfmt",
    "histappend", "histreedit", "histverify", "hostcomplete", "huponexit", "inherit_errexit",
    "interactive_comments", "lastpipe", "lithist", "localvar_inherit", "localvar_unset",
    "login_shell", "mailwarn", "no_empty_cmd_completion", "nocaseglob", "nocasematch",
    "noexpand_translation", "nullglob", "patsub_replacement", "progcomp", "progcomp_alias",
    "promptvars", "restricted_shell", "shift_verbose", "sourcepath", "varredir_close",
    "xpg_echo"]

/-- The habits that are on from the beginning, and a setting without a letter. -/
def firstHabits : List String :=
  ["checkwinsize", "cmdhist", "complete_fullquote", "extquote", "force_fignore",
    "globasciiranges", "globskipdots", "hostcomplete", "interactive_comments",
    "patsub_replacement", "progcomp", "promptvars", "sourcepath", "interactive-comments"]

/-- What becomes of the letters of a value. -/
inductive Casing where
  | upper
  | lower
  /-- The first letter becomes a capital, and the others do not. -/
  | capital
deriving DecidableEq, Repr

def Casing.apply (c : Casing) (value : String) : String :=
  match c with
  | .upper => value.toUpper
  | .lower => value.toLower
  | .capital =>
    match value.toList with
    | [] => ""
    | first :: rest => String.ofList (first.toUpper :: rest.map Char.toLower)

structure Variable where
  /-- Nothing for a variable that is only marked. -/
  value : Option String := none
  exported : Bool := false
  readOnly : Bool := false
  isInteger : Bool := false
  /-- The elements of a list by their keys, which are numbers or texts. -/
  elements : Option (List (String × String)) := none
  isKeyed : Bool := false
  casing : Option Casing := none
  /-- Whether the value is the name of the variable that is meant. -/
  isReference : Bool := false
  /-- Whether no elements were ever given to the list. -/
  isBare : Bool := false

/-- What a function does, and the file where it was defined. -/
structure Function where
  body : Command
  source : String := ""
  /-- Whether programs are handed it, too. -/
  exported : Bool := false

/-- A function or a file that is being run: its name, the file with its commands and the line
from which it was called. -/
structure Frame where
  name : String
  source : String
  line : Nat
  isFunction : Bool := false

/-- What is being skipped. -/
inductive Skip where
  | nothing
  | break (loops : Nat)
  | continue (loops : Nat)
  /-- The rest of a function or a file, perhaps with a status of its own. -/
  | return (hasStatus : Bool)
deriving DecidableEq, Repr

/-- A command in the background. -/
structure Job where
  number : Nat
  pids : List Nat
  /-- The wait statuses of the processes that have ended. -/
  ended : List (Nat × WaitStatus) := []
  /-- Whether somebody has asked how it ended. -/
  waited : Bool := false
  /-- What it runs, as it is shown. -/
  text : String := ""
  /-- Whether it belongs to a word of a command, and is not shown. -/
  isHelper : Bool := false

/-- What a shell keeps track of. -/
structure State where
  grammar : Grammar := {}
  title : String
  /-- The name under which the shell itself was called. -/
  shellName : String := ""
  arguments : List String := []
  bindings : List (String × Variable) := []
  functions : List (String × Function) := []
  bodies : List (Nat × Lines) := []
  counter : Nat := 0
  status : Nat := 0
  /-- The letters of the options that are on. -/
  options : List Char := []
  /-- The options that have no letter. -/
  longOptions : List String := []
  traps : List (Nat × String) := []
  /-- The signals that were ignored from the beginning. -/
  deaf : List Nat := []
  /-- The signals that have come and whose traps are still to be run. -/
  arrived : List Nat := []
  jobs : List Job := []
  /-- The jobs of the shell of which this one is a part. -/
  outerJobs : List Job := []
  lastBackground : Option Nat := none
  skip : Skip := .nothing
  loops : Nat := 0
  functionDepth : Nat := 0
  sourceDepth : Nat := 0
  /-- What the local variables of the running functions hide. -/
  hidden : List (List (String × Option Variable)) := []
  pid : Nat := 0
  /-- The number of this very process, which for a part of a shell is another one. -/
  selfPid : Nat := 0
  parent : Nat := 0
  directory : String := "/"
  /-- The next argument to be read for options, and how far its reading has come. -/
  optionIndex : Nat := 1
  optionPlace : Nat := 0
  isSubshell : Bool := false
  /-- The status before the trap that is being run. -/
  trapStatus : Option Nat := none
  /-- The descriptors that lead to the commands within the words of the running command. -/
  channels : List Nat := []
  /-- The status of the last command whose output was taken. -/
  outputStatus : Option Nat := none
  pipeStatus : List Nat := []
  /-- The running functions and files, the innermost first. -/
  frames : List Frame := []
  /-- The line of the running command, and the line on which the text begins that is still to
  be read. -/
  line : Nat := 1
  textLine : Nat := 1
  /-- The text of the running command. -/
  command : String := ""
  /-- In how many texts within others the running command stands. -/
  nesting : Nat := 0
  /-- The descriptor on which it is shown what is about to be done, and the assignments of the
  plain shell that are still to be shown. -/
  shownOn : Nat := 2
  assigned : List String := []
  /-- How many shells this one is a part of. -/
  depth : Nat := 0
  /-- The last word of the last command. -/
  lastWord : String := ""
  /-- The traps of the shell of which this one is a part. -/
  outerTraps : List (Nat × String) := []
  /-- From what the next random number is made, and the last one. -/
  random : Nat := 12345
  lastRandom : Nat := 0
  /-- The time, in microseconds, as it was asked for last. -/
  moment : Nat := 0
  /-- By how much the seconds that are counted are ahead of the time. -/
  secondsAhead : Int := 0
  /-- Whether the commands come from an argument. -/
  isOneLiner : Bool := false
  /-- Where programs were found or are said to be, and how often they were run. -/
  remembered : List (String × String × Nat) := []
  /-- The builtins that are passed over. -/
  disabled : List String := []
  /-- The builtin that is running, as the plain shell names it when it complains. -/
  running : String := ""

/-- Why a shell leaves off what it is doing. -/
inductive Stop where
  | exit (status : Nat)
  /-- A fault, which ends a plain shell unless a command without special powers met it. -/
  | fault (status : Nat)
  /-- The rest of the line is given up. -/
  | abandon (status : Nat)
deriving DecidableEq, Repr

abbrev Work := ExceptT Stop (Doing State)

namespace Work

/-- Do something and see how it was left off. -/
def attempt {α : Type} (m : Work α) : Work (Except Stop α) :=
  ExceptT.mk (do
    let r ← m.run
    pure (.ok r))

def lift {α : Type} (m : Doing State α) : Work α := ExceptT.lift m

/-- Split off a child that ends with the code that the work yields. -/
def fork (child : Work Nat) : Work Nat :=
  lift (Doing.fork (do
    match ← child.run with
    | .ok code => pure code
    | .error (.exit code) | .error (.fault code) | .error (.abandon code) => pure code))

/-- End the process at once. -/
def leave {α : Type} (code : Nat) : Work α := lift (Doing.leave code)

end Work

namespace State

def binding? (s : State) (name : String) : Option Variable := s.bindings.lookup name

def setVariable (s : State) (name : String) (v : Variable) : State :=
  let rec go : List (String × Variable) → List (String × Variable)
    | [] => [(name, v)]
    | e :: rest => if e.1 == name then (name, v) :: rest else e :: go rest
  { s with bindings := go s.bindings }

def dropVariable (s : State) (name : String) : State :=
  { s with bindings := s.bindings.filter fun e => e.1 != name }

def has (s : State) (option : Char) : Bool := s.options.contains option

def hasLong (s : State) (option : String) : Bool := s.longOptions.contains option

def isRich (s : State) : Bool := s.grammar.rich

/-- The elements of a variable in the order of their keys. -/
def elementsOf (v : Variable) : List (String × String) :=
  match v.elements with
  | some es => es
  | none => (v.value.map fun x => ("0", x)).toList

/-- The value of a variable that is no list, or the first element of one. -/
def scalar (v : Variable) : Option String :=
  match v.elements with
  | some es => es.lookup "0"
  | none => v.value

/-- The name of the variable that is meant by a name. -/
def resolve (s : State) : Nat → String → String
  | 0, name => name
  | n + 1, name =>
    match s.binding? name with
    | some v => if v.isReference then
        (match v.value with
          | some target => if target.isEmpty then name else s.resolve n target
          | none => name)
      else name
    | none => name

/-- How long a chain of names may be of which one stands for the next. -/
def referenceDepth : Nat := 10

/-- The number behind the last element, from which negative indices are counted. -/
def countOf (es : List (String × String)) : Int :=
  ((es.getLast?.bind fun e => e.1.toInt?).map (· + 1)).getD 0

/-- The number of an element, counted from the end if it is negative. -/
def indexIn (v : Variable) (i : Int) : Int := if i < 0 then countOf (elementsOf v) + i else i

/-- The key that a text stands for among a variable's elements. -/
def keyIn (v : Variable) (text : String) : String :=
  if v.isKeyed then text
  else
    match text.toInt? with
    | some i => toString (indexIn v i)
    | none => text

/-- A list without keys of its own. -/
def listOf (values : List String) : Variable :=
  { elements := some (values.zipIdx.map fun e => (toString e.2, e.1)) }

/-- The names of the options that are on, those with letters and the others. -/
def settingNames (s : State) : String :=
  ":".intercalate ((richOptionNames.filter fun o =>
    match o.2 with
    | some c => s.options.contains c
    | none => s.longOptions.contains o.1).map (·.1))

/-- The names of the habits that are on. -/
def habitNames (s : State) : String :=
  ":".intercalate (habits.filter s.longOptions.contains)

/-- A variable as it is seen, which need not be kept anywhere. -/
def view? (s : State) (name : String) : Option Variable :=
  if !s.grammar.rich then s.binding? name
  else
    match name with
    | "PIPESTATUS" => some (listOf (s.pipeStatus.map toString))
    | "FUNCNAME" =>
      if s.frames.any (·.isFunction) then some (listOf (s.frames.map (·.name))) else none
    | "BASH_SOURCE" => some (listOf (s.frames.map (·.source)))
    | "BASH_LINENO" => some (listOf (s.frames.map fun f => toString f.line))
    | "GROUPS" => some (listOf ["1000"])
    | "SHELLOPTS" => some { value := some s.settingNames, readOnly := true }
    | "BASHOPTS" => some { value := some s.habitNames, readOnly := true }
    | name => s.binding? (s.resolve referenceDepth name)

def value? (s : State) (name : String) : Option String := (s.view? name).bind scalar

def valueOf (s : State) (name : String) : String := (s.value? name).getD ""

/-- The characters that separate fields. -/
def separators (s : State) : String := (s.value? "IFS").getD " \t\n"

/-- The lines that a redirection takes, as they are written. -/
def linesOf (s : State) (number : Nat) : String := ((s.bodies.lookup number).map (·.text)).getD ""

/-- The environment for programs. -/
def environment (s : State) : List String :=
  (s.bindings.filterMap fun e =>
    if e.2.exported then (scalar e.2).map fun v => e.1 ++ "=" ++ v else none) ++
    s.functions.filterMap fun f =>
      if f.2.exported then
        some ("BASH_FUNC_" ++ f.1 ++ "%%=() " ++ shownBody s.linesOf f.2.body)
      else none

/-- The aliases that are put in for words. -/
def activeAliases (s : State) : List (String × String) :=
  if !s.isRich || s.hasLong "expand_aliases" || s.hasLong "posix" then s.grammar.aliases else []

/-- The letters of all options that are on. -/
def optionLetters (s : State) : String :=
  if s.grammar.rich then
    String.ofList ("abefhikmnprtuvxBCEHPT".toList.filter s.options.contains) ++
      (if s.isOneLiner then "c" else if s.has 's' then "s" else "")
  else String.ofList ("ubaCEVvxsnmiIfe".toList.filter s.options.contains)

/-- The status by which a shell knows how a process ended. -/
def codeOf (w : WaitStatus) : Nat :=
  match w.code? with
  | some code => code.toInt.toNat
  | none => 128 + (w.raw.toInt % 128).toNat

end State

/-- Leave off because of a fault: a plain shell ends with status two. -/
def fail {α : Type} : Work α := do
  let s ← get
  if s.isRich then throw (.abandon 1) else throw (.fault 2)

/-- The name by which the shell complains: the file whose commands are run, or its own. -/
def State.nameInComplaints (s : State) : String :=
  match s.frames with
  | f :: _ => if s.isRich && !f.source.isEmpty then f.source else s.title
  | [] => s.title

/-- Complain on the standard error about what is done on the present line. -/
def complain (text : String) : Work Unit := do
  let s ← get
  let place := if s.isRich then ": line " else ": "
  let builtin := if s.isRich || s.running.isEmpty then "" else s.running ++ ": "
  let _ ← write 2 (s.nameInComplaints ++ place ++ toString s.line ++ ": " ++ builtin ++ text ++ "\n")

/-- The place of a key among others, which depends on its characters. -/
def placeOfKey (key : String) : Nat :=
  (key.toList.foldl (fun h c => (h * 16777619 % 4294967296) ^^^ c.toNat) 2166136261) % 1024

/-- Keep the elements of a list in the order of their numbers, or of the places of their
keys. -/
def insertElement (keyed : Bool) (key value : String) :
    List (String × String) → List (String × String)
  | es =>
    if es.any (·.1 == key) then es.map fun e => if e.1 == key then (key, value) else e
    else
      let place (k : String) : Nat := if keyed then placeOfKey k else k.toNat?.getD 0
      let p := place key
      let front := es.takeWhile fun e => decide (place e.1 < p)
      front ++ (key, value) :: es.drop front.length

/-- The variables that the rich shell itself keeps and nobody else may set. -/
def keptVariables : List String :=
  ["BASHOPTS", "BASH_VERSINFO", "EUID", "PPID", "SHELLOPTS", "UID"]

/-- The variables that a restricted shell does not let anybody set. -/
def barredVariables : List String := ["SHELL", "PATH", "HISTFILE", "ENV", "BASH_ENV"]

/-- Whether a variable must not be set. -/
def State.isProtected (s : State) (name : String) : Bool :=
  (s.binding? name).any (·.readOnly) ||
    s.isRich && keptVariables.contains name

/-- The number that follows another one when numbers are drawn. -/
def nextRandom (n : Nat) : Nat := (if n = 0 then 123459876 else n) * 16807 % 2147483647

/-- The number that is shown for what numbers are made from. -/
def shownRandom (n : Nat) : Nat := ((n / 65536) ^^^ (n % 65536)) % 32768

/-- Draw a number that is not the last one. -/
def State.draw (s : State) : State :=
  let first := nextRandom s.random
  let next := if shownRandom first = s.lastRandom then nextRandom first else first
  { s with random := next, lastRandom := shownRandom next }

/-- What assigning certain variables of the rich shell changes beside their values. -/
def State.notice (s : State) (name value : String) : State :=
  match name with
  | "PATH" => { s with remembered := [] }
  | "BASH_ARGV0" => if s.isRich then { s with title := value } else s
  | "OPTIND" => { s with optionPlace := 0, optionIndex := Nat.max 1 (value.toNat?.getD 1) }
  | "RANDOM" =>
    if s.isRich then { s with random := ((number? 10 value).getD 0).toNat, lastRandom := 0 } else s
  | "SECONDS" =>
    if s.isRich then
      { s with secondsAhead := (number? 10 value).getD 0 - ((s.moment / 1000000 : Nat) : Int) }
    else s
  | _ => s

/-- Learn what time it is. -/
def tellTime : Work Unit := do
  match ← Asking.ask .now with
  | .number n => modify fun s => { s with moment := n }
  | _ => pure ()

/-- Set a variable, or one element of it. A variable that is read-only stays as it is. -/
def assign (name : String) (key : Option String) (value : String) (exported : Bool) :
    Work Unit := do
  let s ← get
  let name := if s.isRich then s.resolve State.referenceDepth name else name
  let old := (s.binding? name).getD {}
  let isClock := s.isRich && name == "SECONDS"
  if isClock then tellTime
  let s ← if isClock then get else pure s
  let value := match old.casing with
    | some c => c.apply value
    | none => value
  if s.isProtected name then do
    complain (name ++ (if s.isRich then ": readonly variable" else ": is read only"))
    fail
  else
    let exported := exported || old.exported || s.has 'a'
    let new : Variable :=
      match key, old.elements with
      | none, none => { old with value := some value, exported := exported }
      | none, some es =>
        { old with elements := some (insertElement old.isKeyed "0" value es), exported := exported }
      | some k, _ =>
        { old with
          value := none, exported := exported, isBare := false
          elements := some (insertElement old.isKeyed k value (State.elementsOf old)) }
    set ((s.setVariable name new).notice name value)

/-- Take a variable away. If it is local to a function further out, the one that it hides
comes back. -/
def State.uncoverOuter (s : State) (name : String) : State :=
  let hides (frame : List (String × Option Variable)) : Bool := frame.any (·.1 == name)
  if (s.hidden.headD []).any (·.1 == name) then s.dropVariable name
  else
    let front := s.hidden.takeWhile fun frame => !hides frame
    match s.hidden.drop front.length with
    | frame :: rest =>
      let others := frame.filter fun e => e.1 != name
      let s := { s with hidden := front ++ others :: rest }
      match (frame.lookup name).getD none with
      | some old => s.setVariable name old
      | none => s.dropVariable name
    | [] => s.dropVariable name

/-- Take a variable away. -/
def unsetVariable (name : String) : Work Bool := do
  let s ← get
  match s.binding? name with
  | some v =>
    if v.readOnly || s.isProtected name then do
      complain (if s.isRich then "unset: " ++ name ++ ": cannot unset: readonly variable"
        else name ++ ": is read only")
      pure false
    else do
      set (if s.isRich then s.uncoverOuter name else s.dropVariable name)
      pure true
  | none => pure (!(s.isRich && keptVariables.contains name))

/-- Remember what a local variable hides, so that it comes back when the function ends. -/
def hide (name : String) : Work Unit := do
  let s ← get
  match s.hidden with
  | [] => pure ()
  | top :: rest =>
    if top.any (·.1 == name) then pure ()
    else set { s with hidden := ((name, s.binding? name) :: top) :: rest }

/-- Remember the options, so that they come back when the function ends. -/
def hideOptions : Work Unit := do
  let s ← get
  match s.hidden with
  | [] => pure ()
  | top :: rest =>
    if top.any (·.1 == "-") then pure ()
    else
      let kept := s.longOptions.filter fun o => richOptionNames.any (·.1 == o)
      let v : Variable :=
        { value := some (String.ofList s.options), elements := some (kept.map fun o => (o, "")) }
      set { s with hidden := (("-", some v) :: top) :: rest }

/-- Bring back what was hidden since the innermost function or command began. -/
def uncover : Work Unit := modify fun s =>
  match s.hidden with
  | [] => s
  | top :: rest =>
    let s := { s with hidden := rest }
    top.foldl (fun s e =>
      if e.1 == "-" then
        match e.2 with
        | some v => { s with
            options := (v.value.getD "").toList
            longOptions := ((v.elements.getD []).map (·.1)) ++
              s.longOptions.filter fun o => !(richOptionNames.any (·.1 == o)) }
        | none => s
      else
        match e.2 with
        | some old => s.setVariable e.1 old
        | none => s.dropVariable e.1) s

/-- Let other processes run, and learn which signals have come. -/
def breathe : Work Unit := do
  match ← Asking.ask (.rest 2) with
  | .signals (x :: xs) => modify fun s =>
      { s with arrived := s.arrived ++ (x :: xs).filter fun n => !s.arrived.contains n }
  | _ => pure ()

end StreamSupervisor.Shell
