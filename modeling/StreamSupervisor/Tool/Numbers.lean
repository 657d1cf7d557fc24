import StreamSupervisor.Text.Regex
import StreamSupervisor.Tool.Format
import StreamSupervisor.Tool.Streams

/-! # Numbers

Programs that calculate: expressions of texts and numbers, sequences, and factors.
-/

namespace StreamSupervisor.Tool

open Machine

/-! ## Expressions -/

namespace Expression

/-- The tokens that are left. -/
abbrev Walk := StateT (List String) (Except Nat)

def wrong {α : Type} : Walk α := throw 2

def integer? (s : String) : Option Int :=
  let (negative, ds) : Bool × List Char := match s.toList with
    | '-' :: rest => (true, rest)
    | rest => (false, rest)
  if ds.isEmpty || !ds.all isDigit then none
  else
    let v : Int := (takeDigits 10 ds 0 0).1
    some (if negative then -v else v)

/-- Whether a value counts as false: nothing, or only zeros. -/
def isNull (s : String) : Bool :=
  let ds := match s.toList with
    | '-' :: rest => rest
    | rest => rest
  s.isEmpty || (!ds.isEmpty && ds.all (· == '0'))

def ofInt (v : Int) : String := toString v

/-- Match a pattern at the front of a text. -/
def colon (a b : String) : Walk String :=
  match Regex.read false b with
  | .error _ => wrong
  | .ok (r, groups) =>
    match Regex.matchAt? false r (Regex.start a) with
    | none => pure (if groups = 0 then "0" else "")
    | some x => pure (if groups = 0 then toString x.place else (x.group? 1).getD "")

def accept (tokens : List String) : Walk (Option String) := do
  let l ← get
  match l with
  | t :: rest =>
    if tokens.contains t then do
      set rest
      pure (some t)
    else pure none
  | [] => pure none

def compare (op a b : String) : Bool :=
  match integer? a, integer? b with
  | some x, some y =>
    match op with
    | "<" => decide (x < y)
    | "<=" => decide (x ≤ y)
    | "=" | "==" => x == y
    | "!=" => x != y
    | ">=" => decide (y ≤ x)
    | _ => decide (y < x)
  | _, _ =>
    match op with
    | "<" => bytesBefore a b
    | "<=" => !bytesBefore b a
    | "=" | "==" => a == b
    | "!=" => a != b
    | ">=" => !bytesBefore a b
    | _ => bytesBefore b a

def arithmetic (op a b : String) : Walk String :=
  match integer? a, integer? b with
  | some x, some y =>
    match op with
    | "+" => pure (ofInt (x + y))
    | "-" => pure (ofInt (x - y))
    | "*" => pure (ofInt (x * y))
    | "/" => if y == 0 then wrong else pure (ofInt (Int.tdiv x y))
    | _ => if y == 0 then wrong else pure (ofInt (Int.tmod x y))
  | _, _ => wrong

/-- The operators from the loosest to the tightest. -/
def levels : List (List String) :=
  [["|"], ["&"], ["<", "<=", "=", "==", "!=", ">=", ">"], ["+", "-"], ["*", "/", "%"], [":"]]

mutual

/-- What the operators from a level on join; what is not live is only read. -/
def level : Nat → Nat → Bool → Walk String
  | 0, _, _ => wrong
  | n + 1, i, live => do
    match levels[i]? with
    | none => word n live
    | some ops => do
      let a ← level n (i + 1) live
      more n i ops live a

def more : Nat → Nat → List String → Bool → String → Walk String
  | 0, _, _, _, _ => wrong
  | n + 1, i, ops, live, a => do
    match ← accept ops with
    | none => pure a
    | some op => do
      let liveRight :=
        if op == "|" then live && isNull a
        else if op == "&" then live && !isNull a
        else live
      let b ← level n (i + 1) liveRight
      let v ←
        if op == "|" then pure (if isNull a then (if isNull b then "0" else b) else a)
        else if op == "&" then pure (if isNull a || isNull b then "0" else a)
        else if !live then pure ""
        else if i = 2 then pure (if compare op a b then "1" else "0")
        else if i = 5 then colon a b
        else arithmetic op a b
      more n i ops live v

def word : Nat → Bool → Walk String
  | 0, _ => wrong
  | n + 1, live => do
    let l ← get
    match l with
    | [] => wrong
    | "+" :: rest =>
      match rest with
      | t :: rest => do
        set rest
        pure t
      | [] => wrong
    | "length" :: rest => do
      set rest
      let a ← word n live
      pure (toString a.length)
    | "match" :: rest => do
      set rest
      let a ← word n live
      let b ← word n live
      if live then colon a b else pure ""
    | "index" :: rest => do
      set rest
      let a ← word n live
      let b ← word n live
      pure (match a.toList.findIdx? fun c => b.toList.contains c with
        | some i => toString (i + 1)
        | none => "0")
    | "substr" :: rest => do
      set rest
      let a ← word n live
      let i ← word n live
      let k ← word n live
      match integer? i, integer? k with
      | some i, some k =>
        pure (if i ≤ 0 || k ≤ 0 then ""
          else String.ofList ((a.toList.drop (i.toNat - 1)).take k.toNat))
      | _, _ => pure ""
    | "(" :: rest => do
      set rest
      let v ← level n 0 live
      match ← accept [")"] with
      | some _ => pure v
      | none => wrong
    | ")" :: _ => wrong
    | t :: rest => do
      set rest
      pure t

end

/-- The value of some arguments, or the code with which they are refused. -/
def evaluate (args : List String) : Except Nat String := do
  let (v, rest) ← (level (20 * args.length + 20) 0 true).run args
  if rest.isEmpty then .ok v else .error 2

end Expression

def expr (args : List String) : Chore Nat := do
  let go (args : List String) : Chore Nat := do
    match Expression.evaluate args with
    | .ok v => do
      say (v ++ "\n")
      finishWith 3 (if Expression.isNull v then 1 else 0)
    | .error code => do
      warn "expr: wrong expression"
      pure code
  match args with
  | ["--help"] | ["--version"] => do
    introduce (args.contains "--version")
    finish 0
  | "--" :: rest => if rest.isEmpty then pure 2 else go rest
  | args => go args

/-! ## Sequences -/

/-- A number as a whole number over a power of ten; hexadecimal ones are whole. -/
def decimal? (s : String) : Option (Int × Nat) :=
  let (negative, cs) := Numeral.sign (s.toList.dropWhile isSpace)
  match cs with
  | '0' :: x :: ds =>
    if x == 'x' || x == 'X' then
      let (v, count, rest) := takeDigits 16 ds 0 0
      if count = 0 || !rest.isEmpty then none else some (if negative then -v else v, 0)
    else plain
  | _ => plain
where
  plain : Option (Int × Nat) :=
    match Format.readDecimal s.toList with
    | some (d, []) => some (if d.negative then -(d.digits : Int) else d.digits, d.scale)
    | _ => none

/-- Whether a format holds a single directive, and that for a fraction. -/
def isNumberFormat (s : String) : Bool :=
  let parts := (s.replace "%%" "").splitOn "%"
  match parts with
  | [_, rest] =>
    let cs := rest.toList.dropWhile fun c => "-+#0 \x27".toList.contains c
    let cs := cs.dropWhile isDigit
    let cs := match cs with
      | '.' :: more => more.dropWhile isDigit
      | cs => cs
    let cs := match cs with
      | 'L' :: more => more
      | cs => cs
    cs.head?.any fun c => "aAeEfFgG".toList.contains c
  | _ => false

def raise (v : Int × Nat) (scale : Nat) : Int := v.1 * (Nat.pow 10 (scale - v.2) : Nat)

def decimalText (v : Int) (scale : Nat) : String :=
  (if v < 0 then "-" else "") ++ Format.insertPoint (digits 10 v.natAbs) scale

/-- Write the numbers from one on, up to a last one if there is one. -/
def sequenceFrom (step : Int) (last : Option Int) (shown : Int → String) (sep : String) :
    Nat → Bool → Int → List String → Chore Unit
  | 0, _, _, _ => pure ()
  | n + 1, first, v, acc => do
    let past := last.any fun l => if 0 < step then decide (l < v) else decide (v < l)
    if past then say (String.join acc.reverse ++ (if first then "" else "\n"))
    else
      let text := (if first then "" else sep) ++ shown v
      if acc.length < 500 then
        sequenceFrom step last shown sep n false (v + step) (text :: acc)
      else do
        say (String.join (text :: acc).reverse)
        sequenceFrom step last shown sep n false (v + step) []

def seq (args : List String) : Chore Nat := do
  /- Options end where a negative number begins. -/
  let isNumber (a : String) : Bool := match a.toList with
    | '-' :: c :: _ => isDigit c || c == '.'
    | _ => false
  let firstNumber := args.findIdx fun a => isNumber a || !a.startsWith "-"
  let options := args.take firstNumber
  let usesNext := match options.getLast? with
    | some "-f" | some "-s" | some "--format" | some "--separator" => true
    | _ => false
  let count := if usesNext then firstNumber + 1 else firstNumber
  let (options, operands) :=
    if usesNext then
      let rest := args.drop count
      let k := rest.findIdx fun a => isNumber a || !a.startsWith "-"
      (args.take (count + k), rest.drop k)
    else (options, args.drop count)
  withOptions { letters := "f:s:w", permute := false, long := [("format", .required),
    ("separator", .required), ("equal-width", .none)], checks := [
      ⟨["f", "format"], 1, isNumberFormat⟩] } 1 options fun chosen extra => do
    let operands := extra ++ operands
    let sep := (valueOf? chosen ["s", "separator"]).getD "\n"
    let format := valueOf? chosen ["f", "format"]
    let wrong : Chore Nat := do
      warn "seq: invalid operand"
      pure 1
    let infinite := operands.getLast?.any fun s => (s.toLower).startsWith "inf"
    let numbers := (if infinite then operands.dropLast else operands).map decimal?
    if numbers.any (·.isNone) || operands.isEmpty || 3 < operands.length then wrong
    else
      let ns := numbers.filterMap id
      let get (i : Nat) (d : Int) : Int × Nat := (ns[i]?).getD (d, 0)
      let k := operands.length
      let first := if k = 1 then (1, 0) else get 0 1
      let step := if k = 3 then get 1 1 else (1, 0)
      let last := get (k - 1) 0
      let scale := Nat.max first.2 step.2
      let full := Nat.max scale last.2
      let stepValue := raise step full
      if stepValue == 0 then wrong
      else
        let drop := Nat.pow 10 (full - scale)
        let plain (v : Int) : String := decimalText (Int.tdiv v drop) scale
        let width :=
          if has chosen ["w", "equal-width"] then
            Nat.max (plain (raise first full)).length (plain (raise last full)).length
          else 0
        let shown (v : Int) : String :=
          match format with
          | some f => (Format.run .tool {} f [plain v]).text
          | none =>
            let t := plain v
            let fill := String.ofList (List.replicate (width - t.length) '0')
            if t.startsWith "-" then "-" ++ fill ++ dropChars 1 t else fill ++ t
        sequenceFrom stepValue (if infinite then none else some (raise last full)) shown sep
          endless true (raise first full) []
        finish 0

/-! ## Factors -/

/-- The factors of a number from a candidate on. -/
def factorsFrom : Nat → Nat → Nat → List Nat
  | 0, n, _ => [n]
  | fuel + 1, n, d =>
    if n < 2 then []
    else if n < d * d then [n]
    else if n % d = 0 then d :: factorsFrom fuel (n / d) d
    else factorsFrom fuel n (d + 1)

def factor (args : List String) : Chore Nat :=
  withOptions { letters := "h", long := [("exponents", .none)] } 1 args fun _ operands => do
    let words ← if operands.isEmpty then do
        let text ← readAll 0
        pure ((text.split isSpace).toStringList.filter (· != ""))
      else pure operands
    let mut code := 0
    for w in words do
      match (Expression.integer? (if w.startsWith "+" then dropChars 1 w else w)) with
      | some v =>
        if v < 0 then code := 1
        else
          let fs := factorsFrom 1000000 v.toNat 2
          say (toString v ++ ":" ++ String.join (fs.map fun f => " " ++ toString f) ++ "\n")
      | none => do
        warn ("factor: " ++ w ++ " is not a valid positive integer")
        code := 1
    finish code

end StreamSupervisor.Tool
