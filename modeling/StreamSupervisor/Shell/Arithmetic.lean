import StreamSupervisor.Machine.Numeral

/-! # Arithmetic in shells

Expressions over numbers of sixty-four bits and variables. What need not be evaluated is
only read. The rich kind of shell knows some operators more and reads the values of
variables as expressions again.
-/

namespace StreamSupervisor.Shell.Arithmetic

open Machine

/-- Why an expression has no value. -/
inductive Trouble where
  | divisionByZero
  | negativeExponent
  | wantsOperand
  /-- Something stands where an operator is wanted. -/
  | wantsOperator
  | leftOver
  | wantsParenthesis
  | wantsColon
  | wantsExpression
  /-- What is assigned to is no variable. -/
  | notAssignable
  /-- What is counted by some sign is no variable. -/
  | notCountable (sign : String)
  | badIndex
  /-- Variables stand for one another without an end. -/
  | tooDeep
  | badNumber
  | badBase
  | noDigits
  | greatDigit
  /-- The value of a variable is no number. -/
  | badValue (text : String)
  | readOnly (name : String)
  /-- A variable is needed that is not set. -/
  | unset (name : String)
deriving DecidableEq, Repr

/-- What is wrong with an expression, and what stands where that was seen. -/
structure Failure where
  trouble : Trouble
  expression : String
  near : String

/-- How the plain shell says what is wrong. -/
def Failure.plainMessage (f : Failure) : String :=
  let said (reason : String) : String :=
    "arithmetic expression: " ++ reason ++ ": \"" ++ f.expression ++ "\""
  match f.trouble with
  | .badValue text => "Illegal number: " ++ text
  | .unset name => name ++ ": parameter not set"
  | .readOnly name => name ++ ": is read only"
  | .divisionByZero => said "division by zero"
  | .wantsParenthesis => said "expecting \x27)\x27"
  | .wantsColon => said "expecting \x27:\x27"
  | .leftOver => said "expecting EOF"
  | _ => said "expecting primary"

/-- How the rich shell says what is wrong. -/
def Failure.richMessage (f : Failure) : String :=
  let said (reason : String) : String :=
    String.ofList (f.expression.toList.dropWhile isSpace) ++ ": " ++ reason ++
      " (error token is \"" ++ f.near ++ "\")"
  match f.trouble with
  | .unset name => name ++ ": unbound variable"
  | .readOnly name => name ++ ": readonly variable"
  | .divisionByZero => said "division by 0"
  | .negativeExponent => said "exponent less than 0"
  | .wantsOperator => said "syntax error: invalid arithmetic operator"
  | .leftOver => said "syntax error in expression"
  | .wantsParenthesis => said "missing \x60)\x27"
  | .wantsColon => said "\x60:\x27 expected for conditional expression"
  | .wantsExpression => said "expression expected"
  | .notAssignable => said "attempted assignment to non-variable"
  | .notCountable sign => said (sign ++ ": assignment requires lvalue")
  | .badIndex => said "bad array subscript"
  | .tooDeep => said "expression recursion level exceeded"
  | .badNumber => said "invalid number"
  | .badBase => said "invalid arithmetic base"
  | .noDigits => said "invalid integer constant"
  | .greatDigit => said "value too great for base"
  | .wantsOperand | .badValue _ => said "syntax error: operand expected"

def Failure.message (rich : Bool) (f : Failure) : String :=
  if rich then f.richMessage else f.plainMessage

inductive Tok where
  | number (n : Int)
  /-- A variable, perhaps with the text of an index. -/
  | parameter (name : String) (index : Option String)
  | operator (text : String)
  /-- A variable behind this, or before it, is counted up or down. -/
  | before (amount : Int)
  | behind (amount : Int)
  /-- What cannot be read, and how long it is if what follows does not matter. -/
  | wrong (why : Trouble) (length : Option Nat)
  | finish
deriving DecidableEq

/-- An expression's surroundings: the tokens, each with the text from it on, and what was
assigned. -/
structure Sum where
  expression : List Char
  tokens : List (Tok × List Char)
  /-- The text from the token on that was left behind last. -/
  last : List Char := []
  /-- How many expressions are being calculated for the sake of others. -/
  depth : Nat := 0
  assigned : List (String × Option String × Int) := []

abbrev Calculation := StateT Sum (Except Failure)

def plainOperators : List String :=
  ["<<=", ">>=", "<<", ">>", "<=", ">=", "==", "!=", "&&", "||", "*=", "/=", "%=", "+=", "-=",
    "&=", "^=", "|=", "+", "-", "*", "/", "%", "<", ">", "!", "~", "&", "|", "^", "?", ":", "=",
    "(", ")"]

def richOperators : List String := ["**", ","]

/-- The value of a digit in some base, where digits may go beyond letters of one kind. -/
def baseDigit? (base : Nat) (c : Char) : Option Nat :=
  if base ≤ 36 then digitValue? c
  else if isUpper c then some (c.toNat - 29)
  else if c == '@' then some 62
  else if c == '_' then some 63
  else digitValue? c

/-- A number of the rich kind, with its base written before it. -/
def richNumber (cs : List Char) : Except Trouble Int :=
  match cs with
  | ['0'] => .ok 0
  | '0' :: x :: rest => if x == 'x' || x == 'X' then go 16 true 0 rest else go 8 true 0 (x :: rest)
  | cs => go 10 false 0 cs
where
  go (base : Nat) (hasBase : Bool) (value : Nat) : List Char → Except Trouble Int
    | [] => .ok (wrap value)
    | '#' :: rest =>
      if hasBase then .error .badNumber
      else if value < 2 || 64 < value then .error .badBase
      else if rest.head?.any fun c => isNameChar c || c == '@' then go value true 0 rest
      else .error .noDigits
    | c :: rest =>
      match baseDigit? base c with
      | some d => if d < base then go base hasBase (value * base + d) rest else .error .greatDigit
      | none => .error .greatDigit

/-- The text up to the bracket that closes, and what follows it. -/
def takeIndex : Nat → List Char → List Char → Option (List Char × List Char)
  | _, [], _ => none
  | depth, c :: rest, acc =>
    if c == ']' && depth = 0 then some (acc.reverse, rest)
    else
      let depth := if c == '[' then depth + 1 else if c == ']' then depth - 1 else depth
      takeIndex depth rest (c :: acc)

/-- Two equal signs of the rich kind: whether they count what stands behind them or before
them, given the tokens so far in reverse, or are not one token at all. -/
def counting? (c : Char) (rest : List Char) (acc : List (Tok × List Char)) : Option Tok :=
  let amount : Int := if c == '+' then 1 else -1
  match acc.map Prod.fst with
  | .parameter _ _ :: .before _ :: _ =>
    some (.wrong (.notCountable (String.ofList [c, c])) none)
  | .parameter _ _ :: _ => some (.behind amount)
  | _ =>
    if (rest.dropWhile isSpace).head?.any isNameStart then some (.before amount) else none

/-- Split an expression into tokens. Nothing follows what cannot be read. -/
def tokens (rich : Bool) : Nat → List Char → List (Tok × List Char) → List (Tok × List Char)
  | 0, _, acc => acc.reverse
  | n + 1, cs, acc =>
    let stop (why : Trouble) (length : Option Nat) : List (Tok × List Char) :=
      ((.wrong why length, cs) :: acc).reverse
    let go (t : Tok) (rest : List Char) : List (Tok × List Char) :=
      match t with
      | .wrong why length => stop why length
      | t => tokens rich n rest ((t, cs) :: acc)
    match cs with
    | [] => acc.reverse
    | c :: rest =>
      if c == ' ' || c == '\t' || c == '\n' then tokens rich n rest acc
      else if isDigit c then
        if rich then
          let ds := cs.takeWhile fun c => isNameChar c || c == '#' || c == '@'
          match richNumber ds with
          | .ok v => go (.number v) (cs.drop ds.length)
          | .error why => stop why (some ds.length)
        else
          let v := Numeral.read 0 cs
          go (.number v.value) v.rest
      else if isNameStart c then
        let name := cs.takeWhile isNameChar
        let rest := cs.drop name.length
        match rich, rest with
        | true, '[' :: more =>
          match takeIndex 0 more [] with
          | some (index, after) =>
            go (.parameter (String.ofList name) (some (String.ofList index))) after
          | none => stop .badIndex none
        | _, _ => go (.parameter (String.ofList name) none) rest
      else
        let counter? :=
          if rich && (c == '+' || c == '-') && rest.head? == some c then
            counting? c (rest.drop 1) acc
          else none
        match counter? with
        | some t => go t (rest.drop 1)
        | none =>
          let known := if rich then richOperators ++ plainOperators else plainOperators
          match known.find? fun o => o.toList.isPrefixOf cs with
          | some o => go (.operator o) (cs.drop o.length)
          | none =>
            match rich, acc with
            | true, (.number _, _) :: _ | true, (.parameter _ _, _) :: _ =>
              stop .wantsOperator none
            | true, _ => stop .wantsOperand none
            | false, _ => go (.operator "@") []

/-- How tightly an operator binds; the loosest is first. -/
def level? (op : String) : Option Nat :=
  match op with
  | "||" => some 0
  | "&&" => some 1
  | "|" => some 2
  | "^" => some 3
  | "&" => some 4
  | "==" | "!=" => some 5
  | "<" | ">" | "<=" | ">=" => some 6
  | "<<" | ">>" => some 7
  | "+" | "-" => some 8
  | "*" | "/" | "%" => some 9
  | "**" => some 10
  | _ => none

/-- Whether an operator assigns. -/
def assigns (op : String) : Bool := op == "=" || (op.endsWith "=" && (level? op).isNone)

/-- The variable that is assigned to in front of some tokens, and the operator. -/
def assigned? : List (Tok × List Char) → Option (String × Option String × String)
  | (.parameter name index, _) :: (.operator op, _) :: _ =>
    if assigns op then some (name, index, op) else none
  | _ => none

def truth (b : Bool) : Int := if b then 1 else 0

/-- Numbers as bits and back. -/
def bits (f : UInt64 → UInt64 → UInt64) (a b : Int) : Int :=
  wrap (f (UInt64.ofNat (a % 18446744073709551616).toNat)
    (UInt64.ofNat (b % 18446744073709551616).toNat)).toNat

def shiftRight (a b : Int) : Int :=
  a / (Nat.pow 2 (b % 64).toNat : Nat)

/-- A power, of whose exponent so many binary digits are taken. -/
def power (a : Int) : Nat → Nat → Int
  | 0, _ => 1
  | digits + 1, n =>
    let half := power a digits (n / 2)
    let square := wrap (half * half)
    if n % 2 = 0 then square else wrap (square * a)

def apply (op : String) (a b : Int) : Except Trouble Int :=
  match op with
  | "|" => .ok (bits (· ||| ·) a b)
  | "^" => .ok (bits (· ^^^ ·) a b)
  | "&" => .ok (bits (· &&& ·) a b)
  | "==" => .ok (truth (a == b))
  | "!=" => .ok (truth (a != b))
  | "<" => .ok (truth (decide (a < b)))
  | ">" => .ok (truth (decide (b < a)))
  | "<=" => .ok (truth (decide (a ≤ b)))
  | ">=" => .ok (truth (decide (b ≤ a)))
  | "<<" => .ok (wrap (a * (Nat.pow 2 (b % 64).toNat : Nat)))
  | ">>" => .ok (shiftRight a b)
  | "+" => .ok (wrap (a + b))
  | "-" => .ok (wrap (a - b))
  | "*" => .ok (wrap (a * b))
  | "/" => if b == 0 then .error .divisionByZero else .ok (wrap (Int.tdiv a b))
  | "%" => if b == 0 then .error .divisionByZero else .ok (Int.tmod a b)
  | "**" => if b < 0 then .error .negativeExponent else .ok (power a 64 b.toNat)
  | _ => .error .wantsOperand

section Evaluation

variable (rich : Bool) (isKeyed : String → Bool)
  (values : String → Option String → Except Trouble (Option String))

/-- Give up, near the token that comes next or the last one. -/
def failWith {α : Type} (why : Trouble) : Calculation α := do
  let s ← get
  let near := match s.tokens with
    | (_, text) :: _ => text
    | [] => s.last
  throw ⟨why, String.ofList s.expression, String.ofList near⟩

/-- The next token, which must be one that can be read. -/
def peek : Calculation Tok := do
  let s ← get
  match s.tokens with
  | [] => pure .finish
  | (.wrong why none, _) :: _ => failWith why
  | (.wrong why (some length), text) :: _ =>
    let unread := text.length - length
    throw ⟨why, String.ofList (s.expression.take (s.expression.length - unread)),
      String.ofList (text.take length)⟩
  | (t, _) :: _ => pure t

def skip : Calculation Unit := modify fun s =>
  match s.tokens with
  | [] => s
  | (_, text) :: rest => { s with tokens := rest, last := text }

mutual

/-- The value of a variable. -/
def valueOf : Nat → String → Option String → Calculation Int
  | 0, _, _ => failWith .wantsOperand
  | n + 1, name, index => do
    let s ← get
    match s.assigned.find? fun a => a.1 == name && a.2.1 == index with
    | some a => pure a.2.2
    | none =>
      let text ← match values name index with
        | .ok text => pure (text.getD "")
        | .error why => failWith why
      if rich then inner n text
      else
        let v := Numeral.read 0 text.toList
        if !v.fits || !(v.rest.all isSpace) then failWith (.badValue text)
        else pure v.value

/-- The value of an expression within another one. -/
def inner : Nat → String → Calculation Int
  | 0, _ => failWith .wantsOperand
  | n + 1, text => do
    let s ← get
    let cs := text.toList
    if cs.all isSpace then pure 0
    else if 1023 ≤ s.depth then failWith .tooDeep
    else do
      set { s with
        expression := cs, tokens := tokens true (2 * cs.length + 2) cs [], last := []
        depth := s.depth + 1 }
      let v ← commas n true
      let t ← peek
      if t != .finish then failWith .leftOver
      modify fun t => { s with assigned := t.assigned }
      pure v

/-- The index that a text stands for: a key, or the value of an expression. -/
def indexOf : Nat → String → Option String → Calculation (Option String)
  | 0, _, _ => failWith .wantsOperand
  | _ + 1, _, none => pure none
  | n + 1, name, some text => do
    if isKeyed name then return some text
    let v ← inner n text
    pure (some (toString v))

def commas : Nat → Bool → Calculation Int
  | 0, _ => failWith .wantsOperand
  | n + 1, live => do
    let v ← assignment n live
    let t ← peek
    if t == .operator "," then do
      skip
      commas n live
    else pure v

/-- An assignment, or what binds tighter. -/
def assignment : Nat → Bool → Calculation Int
  | 0, _ => failWith .wantsOperand
  | n + 1, live => do
    match assigned? (← get).tokens with
    | none => do
      let v ← conditional n live
      let t ← peek
      match rich, t with
      | true, .operator op => if assigns op then failWith .notAssignable else pure v
      | _, _ => pure v
    | some (name, index, op) => do
      skip
      skip
      let index ← indexOf n name index
      let v ← assignment n live
      if !live then pure v
      else
        let result ←
          if op == "=" then pure v
          else do
            let old ← valueOf n name index
            match apply (op.dropEnd 1).toString old v with
            | .ok r => pure r
            | .error why => failWith why
        assign name index result
        pure result

def assign (name : String) (index : Option String) (v : Int) : Calculation Unit :=
  modify fun s => { s with
    assigned := (name, index, v) ::
      s.assigned.filter fun a => !(a.1 == name && a.2.1 == index) }

def conditional : Nat → Bool → Calculation Int
  | 0, _ => failWith .wantsOperand
  | n + 1, live => do
    let a ← binary n live 0
    let t ← peek
    if t == .operator "?" then do
      skip
      let t ← peek
      if rich && (t == .finish || t == .operator ":") then failWith .wantsExpression
      let b ← (if rich then commas n (live && a != 0) else assignment n (live && a != 0))
      let t ← peek
      if t != .operator ":" then failWith .wantsColon
      skip
      let t ← peek
      if rich && t == .finish then failWith .wantsExpression
      let c ← conditional n (live && a == 0)
      pure (if a != 0 then b else c)
    else pure a

/-- What the operators of a level and those that bind tighter join. -/
def binary : Nat → Bool → Nat → Calculation Int
  | 0, _, _ => failWith .wantsOperand
  | n + 1, live, level => do
    if 10 < level then unary n live
    else
      let a ← binary n live (level + 1)
      moreBinary n live level a

def moreBinary : Nat → Bool → Nat → Int → Calculation Int
  | 0, _, _, _ => failWith .wantsOperand
  | n + 1, live, level, a => do
    let t ← peek
    match t with
    | .operator op =>
      if level? op != some level then pure a
      else do
        skip
        let behind := ((← get).last.drop op.length).dropWhile isSpace
        if op == "||" then do
          let b ← binary n (live && a == 0) (level + 1)
          moreBinary n live level (truth (a != 0 || b != 0))
        else if op == "&&" then do
          let b ← binary n (live && a != 0) (level + 1)
          moreBinary n live level (truth (a != 0 && b != 0))
        else do
          let b ← binary n live (if op == "**" then level else level + 1)
          if !live then moreBinary n live level b
          else
            match apply op a b with
            | .ok v => moreBinary n live level v
            | .error .divisionByZero => do
              let s ← get
              throw ⟨.divisionByZero, String.ofList s.expression, String.ofList behind⟩
            | .error why => failWith why
    | _ => pure a

def unary : Nat → Bool → Calculation Int
  | 0, _ => failWith .wantsOperand
  | n + 1, live => do
    let t ← peek
    match t with
    | .operator "!" => do
      skip
      let v ← unary n live
      pure (truth (v == 0))
    | .operator "~" => do
      skip
      let v ← unary n live
      pure (-v - 1)
    | .operator "+" => do
      skip
      unary n live
    | .operator "-" => do
      skip
      let v ← unary n live
      pure (wrap (-v))
    | .operator "(" => do
      skip
      let v ← commas n live
      let t ← peek
      if t != .operator ")" then failWith .wantsParenthesis
      skip
      pure v
    | .number v => do
      skip
      pure v
    | .before amount => do
      skip
      match ← peek with
      | .parameter name index => do
        skip
        step n live name index amount
      | _ => failWith .wantsOperand
    | .parameter name index => do
      skip
      let index ← indexOf n name index
      let after ← peek
      let v ← (if live then valueOf n name index else pure 0)
      match after with
      | .behind amount => do
        skip
        if live then assign name index (wrap (v + amount))
        pure v
      | _ => pure v
    | _ => failWith .wantsOperand

/-- Count a variable up or down before its value is taken. -/
def step : Nat → Bool → String → Option String → Int → Calculation Int
  | 0, _, _, _, _ => failWith .wantsOperand
  | n + 1, live, name, index, amount => do
    let index ← indexOf n name index
    if live then do
      let v ← valueOf n name index
      let v := wrap (v + amount)
      assign name index v
      pure v
    else pure 0

end

/-- The value of an expression, and what it assigned. -/
def evaluate (text : String) : Except Failure (Int × List (String × Option String × Int)) := do
  let cs := text.toList
  if rich && cs.all isSpace then .ok (0, [])
  else
    let start : Sum := { expression := cs, tokens := tokens rich (2 * cs.length + 2) cs [] }
    let fuel := 40 * cs.length + (if rich then 100000 else 200)
    let whole : Calculation Int := do
      let v ← (if rich then commas else assignment) rich isKeyed values fuel true
      let t ← peek
      if t != .finish then failWith .leftOver
      pure v
    let (v, s) ← whole.run start
    .ok (v, s.assigned.reverse)

end Evaluation

end StreamSupervisor.Shell.Arithmetic
