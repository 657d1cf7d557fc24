import StreamSupervisor.Machine.Activity

/-! # Options

How the options among a program's arguments are told from its operands: single letters,
which may stand together, and long names, which may be cut short as long as they are clear.
-/

namespace StreamSupervisor.Tool

open Machine

/-- Whether an option takes a value. -/
inductive Arity where
  | none
  | required
  | optional
deriving DecidableEq, Repr

/-- An option that was given, by its letter or long name, with its value. -/
structure Choice where
  name : String
  value : Option String := none
deriving Repr

/-- What the values of an option have to be like; another one ends the tool with a code. -/
structure Check where
  names : List String
  code : Nat
  holds : String → Bool

/-- Whether a text is one of some words or the beginning of one. -/
def isOneOf (words : List String) (text : String) : Bool :=
  !text.isEmpty && words.any (·.startsWith text)

/-- The word that a text stands for, of which it is the beginning. -/
def wordFor (words : List String) (text : String) : String :=
  (words.find? (·.startsWith text)).getD text

/-- Values that are one of some words; a tool that meets another one fails in the usual way. -/
def Check.words (names words : List String) : Check := ⟨names, 1, isOneOf words⟩

structure Options where
  /-- The letters; a colon after one marks a value, a second one that it may be missing. -/
  letters : String
  long : List (String × Arity) := []
  /-- Whether options may follow operands. -/
  permute : Bool := true
  checks : List Check := []

namespace Options

def arityOf (letters : List Char) (c : Char) : Option Arity :=
  match letters with
  | [] => Option.none
  | d :: rest =>
    if d == c && c != ':' then
      match rest with
      | ':' :: ':' :: _ => some .optional
      | ':' :: _ => some .required
      | _ => some .none
    else arityOf rest c

/-- The long option that a name stands for. -/
def longOption? (o : Options) (name : String) : Option (String × Arity) :=
  let all := o.long ++ [("help", .none), ("version", .none)]
  match all.find? (·.1 == name) with
  | some l => some l
  | Option.none =>
    match all.filter fun l => l.1.startsWith name with
    | [l] => some l
    | _ => Option.none

/-- Read a cluster of letters; the flag says whether the next argument was used up. -/
def cluster (letters : List Char) (next : Option String) :
    List Char → List Choice → Option (List Choice × Bool)
  | [], acc => some (acc, false)
  | c :: rest, acc =>
    match arityOf letters c with
    | Option.none => Option.none
    | some .none => cluster letters next rest (⟨c.toString, Option.none⟩ :: acc)
    | some .optional =>
      let value := if rest.isEmpty then Option.none else some (String.ofList rest)
      some (⟨c.toString, value⟩ :: acc, false)
    | some .required =>
      if rest.isEmpty then next.map fun v => (⟨c.toString, some v⟩ :: acc, true)
      else some (⟨c.toString, some (String.ofList rest)⟩ :: acc, false)

def go (o : Options) : Nat → List String → List Choice → List String →
    Option (List Choice × List String)
  | 0, _, _, _ => Option.none
  | _ + 1, [], chosen, operands => some (chosen.reverse, operands.reverse)
  | n + 1, a :: rest, chosen, operands =>
    if a == "--" then some (chosen.reverse, operands.reverse ++ rest)
    else if a.startsWith "--" then
      let body := dropChars 2 a
      let (name, value) : String × Option String :=
        match splitAtChar? '=' body with
        | some (name, v) => (name, some v)
        | Option.none => (body, Option.none)
      match longOption? o name with
      | Option.none => Option.none
      | some (name, arity) =>
        match arity, value, rest with
        | .none, some _, _ => Option.none
        | .none, Option.none, _ =>
          if name == "help" || name == "version" then
            some ((⟨name, Option.none⟩ :: chosen).reverse, [])
          else go o n rest (⟨name, Option.none⟩ :: chosen) operands
        | .optional, v, _ => go o n rest (⟨name, v⟩ :: chosen) operands
        | .required, some v, _ => go o n rest (⟨name, some v⟩ :: chosen) operands
        | .required, Option.none, v :: rest => go o n rest (⟨name, some v⟩ :: chosen) operands
        | .required, Option.none, [] => Option.none
    else if a.startsWith "-" && a != "-" then
      match cluster o.letters.toList rest.head? (a.toList.drop 1) [] with
      | Option.none => Option.none
      | some (cs, usedNext) => go o n (if usedNext then rest.drop 1 else rest) (cs ++ chosen) operands
    else if o.permute then go o n rest chosen (a :: operands)
    else some (chosen.reverse, operands.reverse ++ a :: rest)

/-- The options and the operands among some arguments, if the options are known. -/
def parse (o : Options) (args : List String) : Option (List Choice × List String) :=
  go o (args.length + 1) args [] []

end Options

/-- The state of a tool: how it introduces itself, and whether something it wrote was lost. -/
structure Desk where
  /-- The name of the tool. -/
  title : String := ""
  /-- The line that tells its version. -/
  release : String := ""
  lost : Bool := false

/-- What tools do. -/
abbrev Chore := Doing Desk

/-- Write to the standard output. -/
def say (text : String) : Chore Unit := do
  if !text.isEmpty then
    match ← write 1 text with
    | .ok () => pure ()
    | .error _ => modify fun d => { d with lost := true }

/-- Tell the version, or how the tool is used. -/
def introduce (isVersion : Bool) : Chore Unit := do
  let d ← get
  say ((if isVersion then d.release else "Usage: " ++ d.title ++ " [OPTION]...") ++ "\n")

/-- Write a complaint to the standard error. -/
def warn (text : String) : Chore Unit := do
  let _ ← write 2 (text ++ "\n")

/-- The exit code of a tool, given the one for lost output. -/
def finishWith (lost code : Nat) : Chore Nat := do
  let d ← get
  pure (if d.lost then lost else code)

def finish (code : Nat) : Chore Nat := finishWith 1 code

/-- Whether an option was chosen under one of some names. -/
def has (chosen : List Choice) (names : List String) : Bool :=
  chosen.any fun c => names.contains c.name

/-- The last value given under one of some names. -/
def valueOf? (chosen : List Choice) (names : List String) : Option String :=
  (chosen.reverse.find? fun c => names.contains c.name).bind (·.value)

/-- The check that a choice fails, if there is one. -/
def Options.failed? (o : Options) (c : Choice) : Option Check :=
  c.value.bind fun v => o.checks.find? fun k => k.names.contains c.name && !k.holds v

/-- Do what the options and operands ask, or end with a code if they are wrong. Help and the
version are shown instead where they are asked for. -/
def withOptions (o : Options) (wrong : Nat) (args : List String)
    (go : List Choice → List String → Chore Nat) : Chore Nat :=
  match o.parse args with
  | none => do
    warn "invalid option"
    pure wrong
  | some (chosen, operands) => do
    match chosen.findSome? o.failed? with
    | some check => do
      warn "invalid argument"
      pure check.code
    | none =>
      if has chosen ["help", "version"] then do
        let isVersion := chosen.any fun c => c.name == "version"
        introduce isVersion
        finish 0
      else go chosen operands

end StreamSupervisor.Tool
