import StreamSupervisor.Tool.Duration
import StreamSupervisor.Tool.Options

/-! # Intake

How programs take in what they read: whole, or line by line. Most programs read a block at a
time, so that more of a pipe is gone than they used. Some of them set a file back to where
they left off.
-/

namespace StreamSupervisor.Tool

open Machine

/-- How lines are taken in. -/
structure Intake where
  /-- With what a line ends. -/
  mark : Char := '\n'
  /-- How much is read at a time. -/
  block : Nat := blockSize
  /-- Whether an input that can be set back is set back to the end of the last line used. -/
  returns : Bool := false
  /-- Whether a block is read to its end before any of it is used. -/
  fills : Bool := false

/-- Read a line with its end; nothing at the end of the input. -/
def readLine (fd : Nat) (mark : Char := '\n') : Nat → List String → Chore (Option String)
  | 0, _ => pure none
  | n + 1, acc => do
    match ← Asking.ask (.readUntil fd mark) with
    | .text s =>
      if s.isEmpty then
        pure (if acc.isEmpty then none else some (String.join acc.reverse))
      else if s.endsWith mark.toString then
        pure (some (if acc.isEmpty then s else String.join (s :: acc).reverse))
      else readLine fd mark n (s :: acc)
    | .interrupted => readLine fd mark n acc
    | _ => pure (if acc.isEmpty then none else some (String.join acc.reverse))

/-- The pieces of a text that end with a mark, and what stands behind the last mark. -/
def markedPieces (mark text : String) : List String × String :=
  let parts := text.splitOn mark
  (parts.dropLast.map (· ++ mark), parts.getLast?.getD "")

/-- Whether an input can be set back. -/
def canReturn (fd : Nat) : Chore Bool := do
  match ← Asking.ask (.inspectOpen fd) with
  | .info i => pure (decide (i.kind = .plain))
  | _ => pure false

/-- An input that lines are taken from. -/
structure LineSource where
  descriptor : Nat
  how : Intake := {}
  /-- Whether each line is read by itself. -/
  exact : Bool := false
  /-- The lines that were read but not used yet. -/
  ready : List String := []
  /-- The parts read so far of a line that has not ended yet, last first. -/
  begun : List String := []

def LineSource.ofDescriptor (how : Intake) (fd : Nat) : Chore LineSource := do
  let exact ← if how.returns then canReturn fd else pure false
  pure { descriptor := fd, how := how, exact := exact }

/-- Read a block, piece by piece if it is to be filled. -/
def readBlock (how : Intake) (fd : Nat) : Nat → Nat → List String → Chore String
  | 0, _, parts => pure (String.join parts.reverse)
  | n + 1, room, parts => do
    match ← Asking.ask (.read fd room) with
    | .text s =>
      if s.isEmpty || !how.fills || room ≤ s.length then
        pure (String.join (s :: parts).reverse)
      else readBlock how fd n (room - s.length) (s :: parts)
    | .interrupted => readBlock how fd n room parts
    | _ => pure (String.join parts.reverse)

/-- Take a line, with its end. -/
def LineSource.next : Nat → LineSource → Chore (Option String × LineSource)
  | 0, s => pure (none, s)
  | n + 1, s => do
    match s.ready with
    | l :: ls => pure (some l, { s with ready := ls })
    | [] =>
      if s.exact then
        let line ← readLine s.descriptor s.how.mark endless []
        pure (line, s)
      else
        let text ← readBlock s.how s.descriptor endless s.how.block []
        if text.isEmpty then
          if s.begun.isEmpty then pure (none, s)
          else pure (some (String.join s.begun.reverse), { s with begun := [] })
        else
          match markedPieces s.how.mark.toString text with
          | ([], rest) => LineSource.next n { s with begun := rest :: s.begun }
          | (first :: others, rest) =>
            let first := if s.begun.isEmpty then first else String.join (first :: s.begun).reverse
            pure (some first,
              { s with ready := others, begun := if rest.isEmpty then [] else [rest] })

variable {α : Type}

/-- Take in the lines of a source one by one, until there is no more or enough. -/
def foldSource (f : α → String → Chore (α × Bool)) : Nat → LineSource → α → Chore α
  | 0, _, a => pure a
  | n + 1, s, a => do
    match ← s.next endless with
    | (none, _) => pure a
    | (some line, s) => do
      let (a, more) ← f a line
      if more then foldSource f n s a else pure a

/-- Take in the lines of an input, until there is no more or enough. -/
def foldLines (how : Intake) (fd : Nat) (a : α) (f : α → String → Chore (α × Bool)) :
    Chore α := do
  let s ← LineSource.ofDescriptor how fd
  foldSource f endless s a

/-- Do something with every line of an input. -/
def eachLine (how : Intake) (fd : Nat) (f : String → Chore Unit) : Chore Unit :=
  foldLines how fd () fun _ line => do
    f line
    pure ((), true)

/-- Copy what can be read until there is no more or so much was copied. -/
def copy (source : Nat) : Nat → Option Nat → Chore Unit
  | 0, _ => pure ()
  | _, some 0 => pure ()
  | n + 1, limit => do
    let most := match limit with
      | some l => Nat.min l blockSize
      | none => blockSize
    match ← Asking.ask (.read source most) with
    | .text s =>
      if s.isEmpty then pure ()
      else do
        say s
        copy source n (limit.map (· - s.length))
    | .interrupted => copy source n limit
    | _ => pure ()

/-- Open an input for reading, where a dash stands for the standard input. -/
def openInput (name : String) : Chore (Option Nat) := do
  if name == "-" then
    match ← Asking.ask (.inspectOpen 0) with
    | .info i => pure (if i.kind = .directory then none else some 0)
    | _ => pure none
  else
    match ← openFile name .reading with
    | .error why => do
      warn (name ++ ": " ++ why.text)
      pure none
    | .ok d =>
      match ← Asking.ask (.inspectOpen d) with
      | .info i =>
        if i.kind = .directory then do
          warn (name ++ ": Is a directory")
          close d
          pure none
        else pure (some d)
      | _ => pure (some d)

/-- The names of inputs, where none stand for the standard input. -/
def orStandard (names : List String) : List String := if names.isEmpty then ["-"] else names

/-- Do something with every input, beginning with some value; the code is the given one if
an input could not be read. -/
def foldInputs (names : List String) (bad : Nat) (a : α) (f : α → String → Nat → Chore α) :
    Chore (α × Nat) := do
  let mut a := a
  let mut code := 0
  for name in orStandard names do
    match ← openInput name with
    | none => code := bad
    | some d => do
      a ← f a name d
      if name != "-" then close d
  pure (a, code)

/-- Do something with every input; the code is the given one if one could not be read. -/
def eachInput (names : List String) (bad : Nat) (f : String → Nat → Chore Unit) : Chore Nat := do
  let (_, code) ← foldInputs names bad () fun _ name d => f name d
  pure code

/-- The text of all inputs, and whether all could be read. -/
def allText (names : List String) : Chore (String × Bool) := do
  let (parts, code) ← foldInputs names 1 ([] : List String) fun parts _ d => do
    let s ← readAll d
    pure (s :: parts)
  pure (String.join parts.reverse, code == 0)

def chomp (line : String) : String := if line.endsWith "\n" then (line.dropEnd 1).toString else line

/-- A line without the mark at its end. -/
def withoutMark (mark : Char) (line : String) : String :=
  if line.endsWith mark.toString then (line.dropEnd 1).toString else line

/-- Cut a list into pieces of so many items. -/
def chunks {α : Type} (n : Nat) : Nat → List α → List (List α)
  | 0, _ => []
  | fuel + 1, l => if l.isEmpty then [] else l.take n :: chunks n fuel (l.drop n)

/-- The lines of a text that end with a mark, without it. -/
def linesBy (mark : Char) (text : String) : List String :=
  let (pieces, rest) := markedPieces mark.toString text
  pieces.map (withoutMark mark) ++ (if rest.isEmpty then [] else [rest])

end StreamSupervisor.Tool
