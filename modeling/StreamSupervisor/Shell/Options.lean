import StreamSupervisor.Shell.State

/-! # Options of shells

The options that shells know, by letter and by name, and how they are read from arguments.
-/

namespace StreamSupervisor.Shell

open Machine

/-- The names of the plain shell's options, with their letters. -/
def plainOptionNames : List (String × Option Char) :=
  [("errexit", some 'e'), ("noglob", some 'f'), ("ignoreeof", some 'I'),
    ("interactive", some 'i'), ("monitor", some 'm'), ("noexec", some 'n'), ("stdin", some 's'),
    ("xtrace", some 'x'), ("verbose", some 'v'), ("vi", some 'V'), ("emacs", some 'E'),
    ("noclobber", some 'C'), ("allexport", some 'a'), ("notify", some 'b'),
    ("nounset", some 'u'), ("nolog", none), ("debug", none)]

def optionNames (rich : Bool) : List (String × Option Char) :=
  if rich then richOptionNames else plainOptionNames

/-- The letters without a name of their own. -/
def extraLetters (rich atStart : Bool) : List Char :=
  if rich then (if atStart then "irslD".toList else "ir".toList)
  else if atStart then ['l'] else []

def State.setLetter (s : State) (c : Char) (on : Bool) : State :=
  let others := s.options.filter (· != c)
  { s with options := if on then others ++ [c] else others }

def State.setLong (s : State) (name : String) (on : Bool) : State :=
  let others := s.longOptions.filter (· != name)
  { s with longOptions := if on then others ++ [name] else others }

/-- Turn a named option on or off, if there is one. -/
def State.setNamed? (s : State) (name : String) (on : Bool) : Option State :=
  match (optionNames s.isRich).lookup name with
  | some (some c) => some (s.setLetter c on)
  | some none => some (s.setLong name on)
  | none => none

/-- Whether a named option is on. -/
def State.isOn (s : State) (name : String) : Bool :=
  match (optionNames s.isRich).lookup name with
  | some (some c) => s.has c
  | _ => s.hasLong name

/-- An option that a shell does not know. -/
inductive UnknownOption where
  | letter (sign c : Char)
  | named (name : String)

/-- How a shell says that it does not know an option. -/
def UnknownOption.message (rich : Bool) : UnknownOption → String
  | .letter sign c =>
    if rich then String.ofList [sign, c] ++ ": invalid option"
    else "Illegal option -" ++ c.toString
  | .named name =>
    if rich then name ++ ": invalid option name" else "Illegal option -o " ++ name

/-- What came of reading options. -/
structure OptionsRead where
  shell : State
  /-- Whether a command is given as an argument. -/
  isCommand : Bool := false
  /-- Whether the settings shall be listed. -/
  lists : Bool := false
  /-- The argument that ended the options. -/
  ending : Option String := none
  rest : List String := []

/-- Read the letters of one argument; what follows are the arguments after it. -/
def readLetters (atStart on : Bool) :
    List Char → List String → OptionsRead → Except UnknownOption OptionsRead
  | [], rest, r => .ok { r with rest := rest }
  | c :: cs, rest, r =>
    let rich := r.shell.isRich
    if c == 'c' && atStart then readLetters atStart on cs rest { r with isCommand := true }
    else if c == 'o' then
      match rest with
      | [] => readLetters atStart on cs [] { r with lists := true }
      | name :: rest =>
        match r.shell.setNamed? name on with
        | some s => readLetters atStart on cs rest { r with shell := s }
        | none => .error (.named name)
    else if c == 'O' && rich && atStart then
      match rest with
      | [] => readLetters atStart on cs [] { r with lists := true }
      | name :: rest =>
        readLetters atStart on cs rest { r with shell := r.shell.setLong name on }
    else if ((optionNames rich).any fun o => o.2 == some c) ||
        (extraLetters rich atStart).contains c then
      readLetters atStart on cs rest { r with shell := r.shell.setLetter c on }
    else .error (.letter (if on then '-' else '+') c)

/-- Read options from the front of some arguments. -/
def readOptions (atStart : Bool) :
    Nat → List String → OptionsRead → Except UnknownOption OptionsRead
  | 0, args, r => .ok { r with rest := args }
  | _ + 1, [], r => .ok { r with rest := [] }
  | n + 1, a :: rest, r =>
    match a.toList with
    | ['-'] | ['-', '-'] => .ok { r with rest := rest, ending := some a }
    | '-' :: cs => do
      let r ← readLetters atStart true cs rest r
      readOptions atStart n r.rest r
    | '+' :: cs => do
      let r ← readLetters atStart false cs rest r
      readOptions atStart n r.rest r
    | _ => .ok { r with rest := a :: rest }

end StreamSupervisor.Shell
