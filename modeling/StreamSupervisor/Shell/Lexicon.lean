import StreamSupervisor.Machine.Bytes
import StreamSupervisor.Shell.Tree

/-! # The lexicon of shells

Two kinds of shells, the plain one and the rich one, and what their tokens are. The text
that is still to be read carries along the lines that were promised for later.
-/

namespace StreamSupervisor.Shell

open Machine

/-- How a shell reads: whether it is of the rich kind, and which words stand for others. -/
structure Grammar where
  rich : Bool := false
  /-- Whether patterns may hold groups of alternatives. -/
  groups : Bool := false
  aliases : List (String × String) := []

inductive Token where
  | word (parts : Word) (quoted : Bool)
  | keyword (text : String)
  | operator (text : String)
  | redirection (handle : Handle) (operator : String)
  | finish

/-- Lines that a redirection still waits for. -/
structure Awaited where
  number : Nat
  mark : String
  isFixed : Bool
  stripTabs : Bool
  /-- The line of the redirection. -/
  line : Nat

/-- The lines that a redirection takes: what they are expanded from, and how they are written
together with the mark behind them. -/
structure Lines where
  word : Word
  text : String

structure Reader where
  rest : List Char
  pushed : Option Token := none
  awaited : List Awaited := []
  bodies : List (Nat × Lines) := []
  counter : Nat := 0
  /-- Whether patterns may hold groups of alternatives just now. -/
  groups : Bool := false
  /-- The text from the token on that was read last. -/
  start : List Char := []
  /-- The line on which the text ends. -/
  lastLine : Nat := 1
  /-- The line on which the text is said to end. -/
  endLine : Nat := 1
  /-- Whether a line end would have been passed over where the last token was looked for. -/
  passesLines : Bool := false
  /-- The lines with redirections whose marks were missing, and the marks. -/
  unmarked : List (Nat × String) := []
  /-- The text of the word that was read last. -/
  latest : String := ""
  /-- The aliases in use, each with how much is left to read behind its text. -/
  inUse : List (String × Nat × Bool) := []

/-- Why a text cannot be read as commands. -/
inductive Misreading where
  /-- A token that cannot stand there, what kind of token it is, what is wanted instead, and
  the line where it stands. -/
  | unexpected (token kind wanted : String) (line : Nat)
  /-- A token that cannot stand there within a command that is part of a word. -/
  | inWord (token : String) (line : Nat)
  /-- What would close something is missing. -/
  | unterminated (mark : String) (line : Nat)
  /-- The elements of a list have no end. -/
  | openList (line : Nat)
  /-- A condition that makes no sense, and the word near which that is so. -/
  | condition (why near : String) (line : Nat)
  | badName
  | badLoop
  | tooDeep
deriving DecidableEq, Repr

abbrev Read := StateT Reader (Except Misreading)

def keywords : List String :=
  ["!", "case", "do", "done", "elif", "else", "esac", "fi", "for", "if", "in", "then", "until",
    "while", "\x7b", "\x7d"]

def richKeywords : List String := ["[[", "function", "time", "select", "coproc"]

def isSpecialParameter (c : Char) : Bool := "@*#?-$!".toList.contains c

def isMeta (c : Char) : Bool := "|&;<>() \t\n".toList.contains c

/-- Put a part before others that are kept in reverse; plain texts are joined. -/
def pushPart (p : Part) : List Part → List Part
  | .plain t :: rest =>
    match p with
    | .plain s => .plain (t ++ s) :: rest
    | p => p :: .plain t :: rest
  | .fixed t :: rest =>
    match p with
    | .fixed s => .fixed (t ++ s) :: rest
    | p => p :: .fixed t :: rest
  | rest => p :: rest

/-- The text of a word that needs no expansion, quotes removed. -/
def Part.literal : Part → String
  | .plain s | .fixed s => s
  | .quoted parts => go parts
  | .parameter name _ _ => "$" ++ name
  | _ => ""
where
  go : List Part → String
    | [] => ""
    | p :: rest =>
      (match p with
        | .plain s | .fixed s => s
        | .parameter name _ _ => "$" ++ name
        | _ => "") ++ go rest

def literal (w : Word) : String := String.join (w.map Part.literal)

/-- The text of a word without any quoting or expansion. -/
def plainText? : Word → Option String
  | [] => some ""
  | [.plain s] => some s
  | _ => none

/-- The name, the index and the value of a word that is an assignment; the flag says whether
the value is added to the old one. -/
def assignment? (w : Word) : Option (String × Option Word × Bool × Word) :=
  match w with
  | .plain name :: .subscript index :: .plain s :: rest =>
    let value (cs : List Char) : Word :=
      if cs.isEmpty then rest else .plain (String.ofList cs) :: rest
    match s.toList with
    | '=' :: more => some (name, some index, false, value more)
    | '+' :: '=' :: more => some (name, some index, true, value more)
    | _ => none
  | .plain s :: rest =>
    let cs := s.toList
    let name := cs.takeWhile isNameChar
    if !(cs.head?.any isNameStart) then none
    else
      let value (cs : List Char) : Word :=
        if cs.isEmpty then rest else .plain (String.ofList cs) :: rest
      match cs.drop name.length with
      | '=' :: more => some (String.ofList name, none, false, value more)
      | '+' :: '=' :: more => some (String.ofList name, none, true, value more)
      | _ => none
  | _ => none

/-- Whether a word of the plain shell is an assignment. -/
def isPlainAssignment (w : Word) : Bool :=
  match assignment? w with
  | some (_, none, false, _) => true
  | _ => false

end StreamSupervisor.Shell
