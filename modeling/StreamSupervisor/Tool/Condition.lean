import StreamSupervisor.Machine.Activity
import StreamSupervisor.Machine.Numeral
import StreamSupervisor.Text.Quoting

/-! # Conditions

The conditions that test commands judge: about texts, numbers and files, joined by signs
for not, and, or. There are two ways to read them; one goes by the number of arguments
first, and the other looks for operators as it goes.
-/

namespace StreamSupervisor.Tool

open Machine

inductive Condition where
  | holds (b : Bool)
  | unary (op arg : String)
  | binary (a op b : String)
  | not (c : Condition)
  | both (a b : Condition)
  | either (a b : Condition)

/-- Whose rules apply. -/
inductive Judge where
  | plainShell
  | richShell
  | tool
deriving DecidableEq, Repr

namespace Condition

/-- Why arguments are no condition, or one that cannot be judged. -/
inductive Fault where
  /-- An argument is left over. -/
  | extra (arg : String)
  /-- An argument is missing behind this one. -/
  | missing (after : String)
  /-- Something else than this should stand before one argument. -/
  | unary (op : String)
  /-- Something else than this should stand between two arguments. -/
  | binary (op : String)
  | number (arg : String)
  /-- A parenthesis is not closed where this stands. -/
  | parenthesis (found : Option String)
  /-- The bracket that ends the command is missing. -/
  | bracket

/-- How a fault is said. -/
def Fault.message : Judge → Fault → String
  | .plainShell, .extra a | .plainShell, .unary a | .plainShell, .binary a =>
    a ++ ": unexpected operator"
  | .plainShell, .missing a => a ++ ": argument expected"
  | .plainShell, .number a => "Illegal number: " ++ a
  | .plainShell, .parenthesis _ => "closing paren expected"
  | .plainShell, .bracket => "missing ]"
  | .richShell, .extra a =>
    if a.startsWith "-" then "syntax error: \x60" ++ a ++ "\x27 unexpected"
    else "too many arguments"
  | .richShell, .missing _ => "argument expected"
  | .richShell, .unary a => a ++ ": unary operator expected"
  | .richShell, .binary a => a ++ ": binary operator expected"
  | .richShell, .number a => a ++ ": integer expression expected"
  | .richShell, .parenthesis none => "\x60)\x27 expected"
  | .richShell, .parenthesis (some a) => "\x60)\x27 expected, found " ++ a
  | .richShell, .bracket => "missing \x60]\x27"
  | .tool, .extra a => "extra argument " ++ Quoting.shown a
  | .tool, .missing a => "missing argument after " ++ Quoting.shown a
  | .tool, .unary a => Quoting.shown a ++ ": unary operator expected"
  | .tool, .binary a => Quoting.shown a ++ ": binary operator expected"
  | .tool, .number a => "invalid integer " ++ Quoting.shown a
  | .tool, .parenthesis none => "\x27)\x27 expected"
  | .tool, .parenthesis (some a) => "\x27)\x27 expected, found " ++ Quoting.shown a
  | .tool, .bracket => "missing \x27]\x27"

def unaryLetters : Judge → String
  | .plainShell => "rwxefdcbpugkstznhOGLS"
  | .richShell => "abcdefghknoprstuvwxzGLNOSR"
  | .tool => "bcdefgGhkLNOprsStuwxnz"

def isUnary (j : Judge) (s : String) : Bool :=
  match s.toList with
  | ['-', c] => (unaryLetters j).toList.contains c
  | _ => false

def isBinary (j : Judge) (s : String) : Bool :=
  ["=", "!=", "-eq", "-ne", "-ge", "-gt", "-le", "-lt", "-nt", "-ot", "-ef"].contains s ||
    s == "==" && j != .plainShell || (s == "<" || s == ">") && j != .tool

/-! ## Reading by the way -/

inductive Kind where
  | operand
  | unary
  | binary
  | not
  | and
  | or
  | left
  | right
  | none
deriving DecidableEq

/-- What the first argument is, given those that follow. -/
def kind : List String → Kind
  | [] => .none
  | s :: rest =>
    let isOperand := match rest with
      | [] => true
      | [_] => false
      | t :: _ :: _ => isBinary .plainShell t
    if isUnary .plainShell s then (if isOperand then .operand else .unary)
    else if isBinary .plainShell s then .binary
    else
      match s with
      | "!" => .not
      | "-a" => .and
      | "-o" => .or
      | "(" => if rest.isEmpty then .operand else .left
      | ")" => .right
      | _ => .operand

/-- The arguments from the one that was read last. -/
abbrev Walk := StateT (List String) (Except Fault)

def here : Walk (List String) := get
def onward : Walk Unit := modify (·.drop 1)

mutual

def readOr : Nat → Kind → Walk Condition
  | 0, _ => throw (.missing "")
  | n + 1, k => do
    let a ← readAnd n k
    let l ← here
    if kind (l.drop 1) = .or then do
      set (l.drop 2)
      let b ← readOr n (kind (l.drop 2))
      pure (.either a b)
    else pure a

def readAnd : Nat → Kind → Walk Condition
  | 0, _ => throw (.missing "")
  | n + 1, k => do
    let a ← readNot n k
    let l ← here
    if kind (l.drop 1) = .and then do
      set (l.drop 2)
      let b ← readAnd n (kind (l.drop 2))
      pure (.both a b)
    else pure a

def readNot : Nat → Kind → Walk Condition
  | 0, _ => throw (.missing "")
  | n + 1, k => do
    if k != .not then readPrimary n k
    else
      let l ← here
      let next := kind (l.drop 1)
      if next != .none then onward
      let c ← readNot n next
      pure (.not c)

def readPrimary : Nat → Kind → Walk Condition
  | 0, _ => throw (.missing "")
  | n + 1, k => do
    let l ← here
    match k with
    | .none => pure (.holds false)
    | .left => do
      onward
      let next := kind (l.drop 1)
      if next = .right then pure (.holds false)
      else
        let c ← readOr n next
        let l ← here
        if kind (l.drop 1) = .right then do
          onward
          pure c
        else throw (.parenthesis none)
    | .unary =>
      match l with
      | op :: arg :: _ => do
        onward
        pure (.unary op arg)
      | l => throw (.missing (l.headD ""))
    | _ =>
      match l with
      | a :: op :: rest =>
        if kind (op :: rest) = .binary then
          match rest with
          | b :: _ => do
            onward
            onward
            pure (.binary a op b)
          | [] => throw (.missing op)
        else pure (.holds (!a.isEmpty))
      | [a] => pure (.holds (!a.isEmpty))
      | [] => throw (.missing "")

end

/-- Read a condition by the way. -/
def readPlain (negated : Bool) : Nat → List String → Except Fault Condition
  | 0, _ => .error (.missing "")
  | n + 1, args =>
    let wrap (c : Condition) : Condition := if negated then .not c else c
    let finish (k : Kind) (args : List String) : Except Fault Condition := do
      let (c, rest) ← (readOr (8 * args.length + 20) k).run args
      match rest with
      | a :: _ :: _ => .error (.extra a)
      | _ => .ok (wrap c)
    match args with
    | [] => .ok (wrap (.holds false))
    | [a, op, b] =>
      if isBinary .plainShell op then finish .operand args
      else if a == "(" && b == ")" then finish (kind [op]) [op]
      else if a == "!" then readPlain (!negated) n [op, b]
      else finish (kind args) args
    | [a, x, y, b] =>
      if a == "(" && b == ")" then finish (kind [x, y]) [x, y]
      else if a == "!" then readPlain (!negated) n [x, y, b]
      else finish (kind args) args
    | args => finish (kind args) args

/-! ## Reading by the number of arguments -/

def isLetterOption (a : String) : Bool :=
  match a.toList with
  | ['-', _] => true
  | _ => false

mutual

/-- Read so many arguments, by their number. -/
def readCounted (j : Judge) : Nat → Nat → Walk Condition
  | 0, _ => throw (.missing "")
  | n + 1, count => do
    let l ← here
    match count, l with
    | 0, _ => pure (.holds false)
    | 1, a :: rest => do
      set rest
      pure (.holds (!a.isEmpty))
    | 2, a :: b :: rest =>
      if a == "!" then do
        set rest
        pure (.holds b.isEmpty)
      else if isUnary j a then do
        set rest
        pure (.unary a b)
      else throw (if isLetterOption a || j == .richShell then .unary a else .missing b)
    | 3, a :: op :: b :: rest =>
      if isBinary j op then do
        set rest
        pure (.binary a op b)
      else if j == .richShell && op == "-a" then do
        set rest
        pure (.both (.holds (!a.isEmpty)) (.holds (!b.isEmpty)))
      else if j == .richShell && op == "-o" then do
        set rest
        pure (.either (.holds (!a.isEmpty)) (.holds (!b.isEmpty)))
      else if a == "!" then do
        onward
        let c ← readCounted j n 2
        pure (.not c)
      else if a == "(" && b == ")" then do
        set rest
        pure (.holds (!op.isEmpty))
      else if op == "-a" || op == "-o" then readEither j n
      else throw (.binary op)
    | 4, a :: _ :: _ :: d :: rest =>
      if a == "!" then do
        onward
        let c ← readCounted j n 3
        pure (.not c)
      else if a == "(" && d == ")" then do
        onward
        let c ← readCounted j n 2
        set rest
        pure c
      else readEither j n
    | _, _ => readEither j n

def readEither (j : Judge) : Nat → Walk Condition
  | 0 => throw (.missing "")
  | n + 1 => do
    let a ← readBoth j n
    let l ← here
    match l with
    | "-o" :: rest => do
      set rest
      let b ← readEither j n
      pure (.either a b)
    | _ => pure a

def readBoth (j : Judge) : Nat → Walk Condition
  | 0 => throw (.missing "")
  | n + 1 => do
    let a ← readTerm j n
    let l ← here
    match l with
    | "-a" :: rest => do
      set rest
      let b ← readBoth j n
      pure (.both a b)
    | _ => pure a

def readTerm (j : Judge) : Nat → Walk Condition
  | 0 => throw (.missing "")
  | n + 1 => do
    let l ← here
    match l with
    | "!" :: rest => do
      set rest
      let c ← readTerm j n
      pure (.not c)
    | "(" :: rest => do
      set rest
      if rest.isEmpty then throw (.missing "(")
      let inner := (rest.drop 1).takeWhile (· != ")")
      let c ←
        if j == .richShell then readEither j n
        else readCounted j n (if inner.length < 4 then inner.length + 1 else rest.length)
      let l ← here
      match l with
      | ")" :: rest => do
        set rest
        pure c
      | l => throw (.parenthesis l.head?)
    | "-l" :: a :: op :: b :: rest =>
      if j == .tool && isBinary j op then do
        set rest
        pure (.binary (toString a.length) op b)
      else if isBinary j a then do
        set (b :: rest)
        pure (.binary "-l" a op)
      else if j == .richShell then do
        onward
        pure (.holds true)
      else throw (.unary "-l")
    | a :: op :: b :: rest =>
      if isBinary j op then do
        set rest
        pure (.binary a op b)
      else if isUnary j a then do
        set (b :: rest)
        pure (.unary a op)
      else if isLetterOption a && j == .tool then throw (.unary a)
      else do
        onward
        pure (.holds (!a.isEmpty))
    | [a, b] =>
      if isUnary j a then do
        set ([] : List String)
        pure (.unary a b)
      else if isLetterOption a && j == .tool then throw (.unary a)
      else do
        onward
        pure (.holds (!a.isEmpty))
    | [a] =>
      if isLetterOption a && j == .tool then
        throw (if isUnary j a then .missing a else .unary a)
      else do
        onward
        pure (.holds (!a.isEmpty))
    | [] => throw (.missing "")

end

/-- Read the arguments of a test command. -/
def read (j : Judge) (args : List String) : Except Fault Condition :=
  match j with
  | .plainShell => readPlain false (args.length + 2) args
  | _ =>
    match (readCounted j (10 * args.length + 30) args.length).run args with
    | .ok (c, []) => .ok c
    | .ok (_, a :: _) => .error (.extra a)
    | .error (.missing _) => .error (.missing (args.getLast?.getD ""))
    | .error why => .error why

/-! ## Judging -/

/-- A whole number of any size. -/
def integer? (s : String) : Option Int :=
  let (negative, ds) := Numeral.sign (s.toList.dropWhile isSpace)
  let (v, count, rest) := takeDigits 10 ds 0 0
  if count = 0 || !rest.all isSpace then none else some (if negative then -v else v)

def number? (j : Judge) (s : String) : Option Int :=
  match j with
  | .tool => integer? s
  | _ => Machine.number? 10 s

section Judging

variable {m : Type → Type} [Monad m] [Asking m]

def judgeUnary (op arg : String) : m Bool := do
  let about (follow : Bool) (test : FileInfo → Bool) : m Bool := do
    let i ← inspect? arg follow
    pure (i.any test)
  match op with
  | "-n" => pure (!arg.isEmpty)
  | "-z" => pure arg.isEmpty
  | "-e" | "-a" => about true fun _ => true
  | "-d" => about true fun i => decide (i.kind = .directory)
  | "-f" => about true fun i => decide (i.kind = .plain)
  | "-c" => about true fun i => decide (i.kind = .characters)
  | "-p" => about true fun i => decide (i.kind = .queue)
  | "-b" | "-S" => about true fun _ => false
  | "-h" | "-L" => about false fun i => decide (i.kind = .link)
  | "-s" => about true fun i => decide (0 < i.size)
  | "-u" => about true fun i => decide (i.mode / 2048 % 2 = 1)
  | "-g" => about true fun i => decide (i.mode / 1024 % 2 = 1)
  | "-k" => about true fun i => decide (i.mode / 512 % 2 = 1)
  | "-O" | "-G" => about true fun i => i.mine
  | "-N" => about true fun i => i.mine
  | "-r" => mayAccess arg 4
  | "-w" => mayAccess arg 2
  | "-x" => mayAccess arg 1
  | _ => pure false

def judgeBinary (j : Judge) (a op b : String) : m (Except Fault Bool) := do
  let compare (test : Int → Int → Bool) : Except Fault Bool :=
    match number? j a, number? j b with
    | some x, some y => .ok (test x y)
    | none, _ => .error (.number a)
    | _, none => .error (.number b)
  match op with
  | "=" | "==" => pure (.ok (a == b))
  | "!=" => pure (.ok (a != b))
  | "<" => pure (.ok (bytesBefore a b))
  | ">" => pure (.ok (bytesBefore b a))
  | "-eq" => pure (compare fun x y => x == y)
  | "-ne" => pure (compare fun x y => x != y)
  | "-lt" => pure (compare fun x y => decide (x < y))
  | "-le" => pure (compare fun x y => decide (x ≤ y))
  | "-gt" => pure (compare fun x y => decide (y < x))
  | "-ge" => pure (compare fun x y => decide (y ≤ x))
  | "-ef" => do
    let x ← inspect? a true
    let y ← inspect? b true
    match x, y with
    | some x, some y => pure (.ok (x.node == y.node))
    | _, _ => pure (.ok false)
  | "-nt" | "-ot" => do
    let (a, b) := if op == "-nt" then (a, b) else (b, a)
    let x ← inspect? a true
    let y ← inspect? b true
    match x, y with
    | some x, some y => pure (.ok (decide (y.changed < x.changed)))
    | some _, none => pure (.ok (j != .plainShell))
    | _, _ => pure (.ok false)
  | op => pure (.error (.binary op))

/-- Whether a condition holds, where a caller may know some of the answers. -/
def judge (j : Judge) (unary : String → String → m (Option Bool)) :
    Condition → m (Except Fault Bool)
  | .holds b => pure (.ok b)
  | .unary op arg => do
    match ← unary op arg with
    | some answer => pure (.ok answer)
    | none =>
      if op == "-t" then
        pure (if j == .richShell || (number? j arg).isSome then .ok false
          else .error (.number arg))
      else do
        let answer ← judgeUnary op arg
        pure (.ok answer)
  | .binary a op b => judgeBinary j a op b
  | .not c => do
    let x ← judge j unary c
    pure (x.map (!·))
  | .both a b => do
    let x ← judge j unary a
    let y ← judge j unary b
    pure (do .ok ((← x) && (← y)))
  | .either a b => do
    let x ← judge j unary a
    let y ← judge j unary b
    pure (do .ok ((← x) || (← y)))

/-- Whether the arguments of a test command make a condition that holds. -/
def ofArguments (j : Judge) (bracketed : Bool) (args : List String)
    (unary : String → String → m (Option Bool)) : m (Except Fault Bool) := do
  let closes (a : String) : Bool := if j = .plainShell then a.startsWith "]" else a == "]"
  if bracketed && !args.getLast?.any closes then pure (.error .bracket)
  else
    match read j (if bracketed then args.dropLast else args) with
    | .ok c => judge j unary c
    | .error why => pure (.error why)

end Judging

end Condition

end StreamSupervisor.Tool
