import StreamSupervisor.Tool.Listing
import StreamSupervisor.Tool.Starters

/-! # Commands for many arguments

A program that cuts its input into items and runs a command with as many of them as are asked
for, again and again.
-/

namespace StreamSupervisor.Tool

open Machine

namespace Batches

/-- How the input is cut, and how the items are made into commands. -/
structure Plan where
  /-- The mark between items; otherwise blanks, quotes and backslashes decide. -/
  mark : Option Char := none
  /-- The item before which the input ends. -/
  stop : Option String := none
  /-- The text that every line takes the place of. -/
  place : Option String := none
  /-- How many items, lines or characters make a command. -/
  most : Option Nat := none
  lines : Option Nat := none
  size : Nat := 131072
  exact : Bool := false
  tells : Bool := false
  asks : Bool := false
  fromTerminal : Bool := false
  /-- Whether there is a command without any item. -/
  always : Bool := true
  /-- How many commands run at the same time; none for any number. -/
  together : Nat := 1
  slot : Option String := none
  file : Option String := none
  command : List String := []
  environment : List String := []

/-- What has been gathered, and which commands are running. -/
structure State where
  /-- The items of the next command, the last first, and how much room they take. -/
  items : List String := []
  room : Nat := 0
  /-- The lines that the items come from. -/
  lines : Nat := 0
  started : Nat := 0
  running : List (Nat × Nat) := []
  code : Nat := 0

/-- What is thrown is the code to end with. -/
abbrev Work := ExceptT Nat (StateT State Chore)

def chore {α : Type} (c : Chore α) : Work α := ExceptT.lift (StateT.lift c)

def fail {α : Type} (why : String) : Work α := do
  chore (warn ("xargs: " ++ why))
  throw 1

/-- Take account of how a command has ended. -/
def note (status : WaitStatus) : Work Unit := do
  match status.code? with
  | some c =>
    if c.toInt = 255 then do
      chore (warn "xargs: exited with status 255; aborting")
      throw 124
    else if c.toInt != 0 then modify fun s => { s with code := 123 }
  | none => do
    chore (warn "xargs: terminated by a signal")
    throw 125

/-- Wait until no more than so many commands are running. -/
def settle : Nat → Nat → Work Unit
  | 0, _ => pure ()
  | n + 1, most => do
    let s ← get
    if most < s.running.length then
      match ← chore (Asking.ask (.collect none true)) with
      | .ended pid status => do
        set { s with running := s.running.filter (·.2 != pid) }
        note status
        settle n most
      | _ => pure ()
    else pure ()

/-- Whether a program with this name could be begun at all. -/
def canBegin (environment : List String) (name : String) : Chore (Option Nat) := do
  if name.contains '/' then
    match ← inspect? name true with
    | none => pure (some 127)
    | some i =>
      if i.kind == .directory then pure (some 126)
      else if ← mayAccess name 1 then pure none else pure (some 126)
  else
    let path := (environmentValue? environment "PATH").getD "/bin:/usr/bin"
    let mut found := false
    for d in path.splitOn ":" do
      let full := joinPath (if d.isEmpty then "." else d) name
      match ← inspect? full true with
      | some i =>
        if i.kind == .plain then
          if ← mayAccess full 1 then found := true
      | none => pure ()
    pure (if found then none else some 127)

/-- Run a command, beside others if there is room for it. -/
def launch (p : Plan) (words : List String) : Work Unit := do
  if p.asks then fail "failed to open /dev/tty for reading: No such device or address"
  if p.tells then
    chore (warn (" ".intercalate (words.map Quoting.ifNeeded)))
  if p.together != 0 then settle endless (p.together - 1)
  match words with
  | [] => pure ()
  | name :: arguments => do
    if p.fromTerminal then do
      chore (warn "xargs: /dev/tty: No such device or address")
      throw 125
    match ← chore (canBegin p.environment name) with
    | some code => do
      settle endless 0
      chore (warn ("xargs: " ++ name ++ ": " ++
        (if code = 127 then "No such file or directory" else "Permission denied")))
      throw code
    | none => pure ()
    let s ← get
    let slot := ((List.range (s.running.length + 1)).find? fun k =>
      !s.running.any (·.1 == k)).getD 0
    let environment := match p.slot with
      | some v => (v ++ "=" ++ toString slot) ::
          p.environment.filter fun e => !e.startsWith (v ++ "=")
      | none => p.environment
    let pid ← chore (Doing.fork (do
      if p.file.isNone then do
        close 0
        let _ ← openFile "/dev/null" .reading
      startProgram "xargs" name arguments environment))
    modify fun s => { s with started := s.started + 1, running := (slot, pid) :: s.running }
    if p.together = 1 then settle endless 0

/-- Run the command with the items that were gathered. -/
def run (p : Plan) : Work Unit := do
  let items := (← get).items.reverse
  modify fun s => { s with items := [], room := 0, lines := 0 }
  launch p (p.command ++ items)

/-- The room that the command takes by itself. -/
def Plan.own (p : Plan) : Nat := p.command.foldl (fun n w => n + w.length + 1) 0

/-- Take an item, running the command when there are enough. -/
def push (p : Plan) (item : String) : Work Unit := do
  let size := item.length + 1
  let s ← get
  if p.size < p.own + s.room + size then
    if s.items.isEmpty then
      fail "cannot fit single argument within argument list size limit"
    else if p.exact && (p.lines.isSome || p.most.isSome) then fail "argument list too long"
    else run p
  modify fun s => { s with items := item :: s.items, room := s.room + size }
  if p.most.any (· ≤ (← get).items.length) then run p

/-- Put a line into the places for it and run the command. -/
def insert (p : Plan) (place item : String) : Work Unit :=
  match p.command with
  | [] => pure ()
  | name :: arguments =>
    launch p (name :: arguments.map fun a => item.intercalate (a.splitOn place))

/-- Where the reading of a line is. -/
inductive Spot where
  | blank
  | plain
  | quote (mark : Char)
  | escape

/-- What is read of a line with quotes: the characters of the item so far, whether there is one,
and whether the line is over. -/
structure Reading where
  spot : Spot := .blank
  item : List Char := []
  isThere : Bool := false
  /-- Whether it is the first item of its line. -/
  isFirst : Bool := true
  before : Option Char := none
  ended : Bool := false

/-- Go on with a character of the input. -/
def readChar (p : Plan) (r : Reading) (c : Char) : Work Reading := do
  let r := { r with before := some c }
  let add (r : Reading) : Reading := { r with spot := .plain, item := c :: r.item, isThere := true }
  let finish (r : Reading) (behind : Bool) : Work Reading := do
    let item := String.ofList r.item.reverse
    if p.stop == some item then pure { r with ended := true, isThere := false, item := [] }
    else do
      match p.place with
      | some place => insert p place item
      | none => push p item
      if behind then
        if p.lines.any (· ≤ (← get).lines) then run p
      pure { spot := .blank, isFirst := behind, before := some c }
  match r.spot with
  | .blank | .plain =>
    if r.spot matches .blank && isSpace c && !(c == '\n' && r.isThere) && c != '\n' then pure r
    else if c == '\n' then
      if r.isThere then do
        modify fun s => { s with lines := s.lines + 1 }
        finish r true
      else if r.isFirst then pure { r with spot := .blank }
      else
        /- Blanks at the end of a line join it to the next one. -/
        pure { r with spot := .blank }
    else if p.place.isNone && (c == ' ' || c == '\t') then finish r false
    else if c == '\\' then pure { r with spot := .escape, isThere := true }
    else if c == '"' || c == '\x27' then pure { r with spot := .quote c, isThere := true }
    else pure (add r)
  | .quote mark =>
    if c == '\n' then do
      if !(← get).items.isEmpty then run p
      fail "unmatched quote; by default quotes are special to xargs unless you use the -0 option"
    else if c == mark then pure { r with spot := .plain }
    else pure { r with item := c :: r.item }
  | .escape => pure (add r)

/-- Go on with all characters of a line. -/
def readChars (p : Plan) : List Char → Reading → Work Reading
  | [], r => pure r
  | c :: rest, r => do
    let r ← readChar p r c
    if r.ended then pure r else readChars p rest r

/-- Read the input by lines with quotes. -/
def readQuoted (p : Plan) : Nat → LineSource → Reading → Work Unit
  | 0, _, _ => pure ()
  | n + 1, source, r => do
    match ← chore (source.next endless) with
    | (some line, source) => do
      let r ← readChars p line.toList r
      if r.ended then pure () else readQuoted p n source r
    | (none, _) =>
      match r.spot with
      | .quote _ => do
        if !(← get).items.isEmpty then run p
        fail "unmatched quote; by default quotes are special to xargs unless you use the -0 option"
      | _ =>
        if r.isThere then do
          let item := String.ofList r.item.reverse
          if p.stop == some item then pure ()
          else
            match p.place with
            | some place => insert p place item
            | none => push p item

/-- Read the input by marks. -/
def readMarked (p : Plan) (mark : Char) : Nat → LineSource → Work Unit
  | 0, _ => pure ()
  | n + 1, source => do
    match ← chore (source.next endless) with
    | (some text, source) => do
      let item := withoutMark mark text
      match p.place with
      | some place => insert p place item
      | none => do
        push p item
        modify fun s => { s with lines := s.lines + 1 }
        if p.lines.any (· ≤ (← get).lines) then run p
      readMarked p mark n source
    | (none, _) => pure ()

/-- The mark that an option names. -/
def markOf? (s : String) : Option Char :=
  let simple := [('a', '\x07'), ('b', '\x08'), ('f', '\x0c'), ('n', '\n'), ('r', '\r'),
    ('t', '\t'), ('v', '\x0b'), ('\\', '\\')]
  match s.toList with
  | [c] => some c
  | '\\' :: 'x' :: ds =>
    let (v, count, rest) := takeDigits 16 ds 0 0
    if 0 < count && rest.isEmpty && v < 256 then some (Char.ofNat v) else none
  | ['\\', c] =>
    match simple.lookup c with
    | some d => some d
    | none => if between '0' '7' c then some (Char.ofNat (c.toNat - 48)) else none
  | '\\' :: ds =>
    let (v, count, rest) := takeDigits 8 ds 0 0
    if 0 < count && rest.isEmpty && v < 256 then some (Char.ofNat v) else none
  | _ => none

/-- The plan with an option carried out; options that exclude each other undo earlier ones. -/
def Plan.choose (p : Plan) (c : Choice) : Option Plan :=
  let value := c.value.getD ""
  let number (least : Nat) : Option Nat := do
    let n ← Machine.number? 10 value
    if n < least then none else some n.toNat
  match c.name with
  | "0" | "null" => some { p with mark := some '\x00' }
  | "d" | "delimiter" => (markOf? value).map fun m => { p with mark := some m }
  | "E" => some { p with stop := if value.isEmpty then none else some value }
  | "e" | "eof" => some { p with stop := if value.isEmpty then none else some value }
  | "I" => some { p with place := some value, most := none, lines := none, exact := true }
  | "i" | "replace" =>
    some { p with
      place := some (if value.isEmpty then "\x7b\x7d" else value), most := none, lines := none
      exact := true }
  | "L" => (number 1).map fun n =>
    { p with lines := some n, most := none, place := none, exact := true }
  | "l" | "max-lines" =>
    (if value.isEmpty then some 1 else number 1).map fun n =>
      { p with lines := some n, most := none, place := none, exact := true }
  | "n" | "max-args" => (number 1).map fun n =>
    if n = 1 && p.place.isSome then p
    else { p with most := some n, lines := none, place := none }
  | "s" | "max-chars" => (number 1).map fun n => { p with size := Nat.min n 131072 }
  | "P" | "max-procs" => (number 0).map fun n => { p with together := n }
  | "p" | "interactive" => some { p with asks := true, tells := true }
  | "t" | "verbose" => some { p with tells := true }
  | "x" | "exit" => some { p with exact := true }
  | "r" | "no-run-if-empty" => some { p with always := false }
  | "o" | "open-tty" => some { p with fromTerminal := true }
  | "a" | "arg-file" => some { p with file := some value }
  | "process-slot-var" => some { p with slot := some value }
  | _ => some p

/-- Do all that the plan asks; says with which code it ends. -/
def Plan.carryOut (p : Plan) (fd : Nat) : Work Unit := do
  let mark := p.mark.getD '\n'
  let source : LineSource := { descriptor := fd, how := { mark := mark, block := 4096 } }
  match p.mark with
  | some m => readMarked p m endless source
  | none => readQuoted p endless source {}
  if p.place.isNone then
    let s ← get
    if !s.items.isEmpty || (p.always && s.started = 0) then run p
  settle endless 0

end Batches

def runForArguments (args environment : List String) : Chore Nat :=
  withOptions { letters := "0a:E:e::i::I:l::L:n:prs:txP:d:o", permute := false, long := [
    ("null", .none), ("arg-file", .required), ("delimiter", .required), ("eof", .optional),
    ("replace", .optional), ("max-lines", .optional), ("max-args", .required),
    ("interactive", .none), ("no-run-if-empty", .none), ("max-chars", .required),
    ("verbose", .none), ("exit", .none), ("max-procs", .required), ("open-tty", .none),
    ("show-limits", .none), ("process-slot-var", .required)] } 1 args fun chosen command => do
    let start : Batches.Plan := {
      command := if command.isEmpty then ["echo"] else command, environment := environment }
    match chosen.foldlM Batches.Plan.choose start with
    | none => do
      warn "xargs: invalid number"
      pure 1
    | some p => do
      let fd? ← match p.file with
        | none => pure (some 0)
        | some path =>
          match ← openFile path .reading with
          | .ok d => pure (some d)
          | .error why => do
            warn ("xargs: " ++ path ++ ": " ++ why.text)
            pure none
      match fd? with
      | none => pure 1
      | some fd => do
        let (result, s) ← (p.carryOut fd).run.run {}
        match result with
        | .ok () => finish s.code
        | .error code => pure code

end StreamSupervisor.Tool
