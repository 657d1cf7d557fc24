import StreamSupervisor.Tool.Format

/-! # Values of scripts for records

Texts and numbers, and what one counts for where the other is wanted.
-/

namespace StreamSupervisor.Tool.Records

open Machine

inductive Value where
  | nothing
  | number (f : Float)
  | text (s : String)
  /-- A text from an input, which is a number where it looks like one. -/
  | input (s : String)

instance : Inhabited Value := ⟨.nothing⟩

/-- A number as a decimal one, exactly. -/
def decimalOf (f : Float) : Format.Decimal :=
  let bits := f.toBits.toNat
  let negative := decide (Nat.pow 2 63 ≤ bits)
  let exponent := bits / Nat.pow 2 52 % 2048
  let fraction := bits % Nat.pow 2 52
  let m := if exponent = 0 then fraction else fraction + Nat.pow 2 52
  let e : Int := (if exponent = 0 then 1 else exponent : Nat) - 1075
  if e < 0 then ⟨negative, m * Nat.pow 5 e.natAbs, e.natAbs⟩
  else ⟨negative, m * Nat.pow 2 e.toNat, 0⟩

/-- A number without its fraction. -/
def truncated (f : Float) : Int :=
  if f.isNaN then 0
  else if f.isInf then (if f < 0.0 then Machine.least else Machine.greatest)
  else
    let d := decimalOf f
    let whole : Int := (d.digits / Nat.pow 10 d.scale : Nat)
    if d.negative then -whole else whole

/-- Whether a number has no fraction and is small enough for a word of the machine. -/
def isWhole (f : Float) : Bool :=
  f.floor == f && -9223372036854775808.0 ≤ f && f ≤ 18446744073709551616.0

/-- A number without its fraction, as near as a signed word comes to it. -/
def clamped (f : Float) : Int :=
  let v := truncated f
  if Machine.greatest < v then Machine.greatest
  else if v < -Machine.greatest && f != -9223372036854775808.0 then -Machine.greatest
  else v

/-- What the operations of the machine make out of nothing sensible; it is written with a sign. -/
def senseless : Float := 0.0 / 0.0

/-- A whole number, or the greatest word if it is beyond. -/
def bounded (n : Int) : Int := if 18446744073709551615 < n then 18446744073709551615 else n

/-- A number as text: whole ones in full, others as a format with some precision tells. -/
def numberText (format : String) (f : Float) : String :=
  if f.isNaN then "-nan"
  else if f.isInf then (if f < 0.0 then "-inf" else "inf")
  else if isWhole f then toString (bounded (truncated f))
  else
    let cs := (format.toList.drop 1).dropWhile fun c => c == '.'
    let (precision, count, _) := takeDigits 10 cs 0 0
    let d := decimalOf f
    let letter := (format.toList.getLast?).getD 'g'
    let directive : Format.Directive := { precision := if count = 0 then none else some precision }
    Format.formatDecimal directive (if isLetter letter then letter else 'g') d

/-- The number that a text begins with. -/
def leadingFloat (s : String) : Float :=
  match Format.readDecimal s.toList with
  | some (d, _) =>
    let f := Float.ofScientific d.digits true d.scale
    if d.negative then -f else f
  | none => 0.0

/-- Whether a text is a number with nothing but blanks around it. -/
def looksNumeric (s : String) : Bool :=
  match Format.readDecimal s.toList with
  | some (_, rest) => rest.all isSpace
  | none => false

namespace Value

def toFloat : Value → Float
  | .nothing => 0.0
  | .number f => f
  | .text s | .input s => leadingFloat s

def toText (format : String) : Value → String
  | .nothing => ""
  | .number f => numberText format f
  | .text s | .input s => s

def isTrue : Value → Bool
  | .nothing => false
  | .number f => f != 0.0
  | .text s => !s.isEmpty
  | .input s => if looksNumeric s then leadingFloat s != 0.0 else !s.isEmpty

/-- Whether a value compares as a number. -/
def isNumeric : Value → Bool
  | .nothing | .number _ => true
  | .text _ => false
  | .input s => looksNumeric s

def ofBool (b : Bool) : Value := .number (if b then 1.0 else 0.0)

def ofNat (n : Nat) : Value := .number (Float.ofNat n)

/-- Compare two values as numbers if both are, and otherwise as texts. -/
def compare (format op : String) (a b : Value) : Bool :=
  if a.isNumeric && b.isNumeric then
    let x := a.toFloat
    let y := b.toFloat
    match op with
    | "<" => x < y
    | "<=" => x <= y
    | ">" => y < x
    | ">=" => y <= x
    | "==" => x == y
    | _ => x != y
  else
    let x := a.toText format
    let y := b.toText format
    match op with
    | "<" => bytesBefore x y
    | "<=" => !bytesBefore y x
    | ">" => bytesBefore y x
    | ">=" => !bytesBefore x y
    | "==" => x == y
    | _ => x != y

end Value

/-! ## Formats -/

/-- A number as a directive with some letter writes it. -/
def formatFloat (d : Format.Directive) (letter : Char) (f : Float) : String :=
  if f.isNaN then Format.formatQuantity d letter (.notNumber true)
  else if f.isInf then Format.formatQuantity d letter (.infinite (f < 0.0))
  else Format.formatDecimal d letter (decimalOf f)

/-- A value as a directive writes it, unless there is no such directive. -/
def formatValue? (convert : String) (d : Format.Directive) (letter : Char) (v : Value) :
    Option String :=
  let asCharacter (f : Float) : String :=
    (Char.ofNat ((clamped f % 256).toNat)).toString
  let cut (s : String) : String := match d.precision with
    | some p => String.ofList (s.toList.take p)
    | none => s
  match letter with
  | 'd' | 'i' => some (Format.formatInteger d 'd' (clamped v.toFloat))
  | 'o' | 'x' | 'X' | 'u' =>
    let f := v.toFloat
    let n := if f < 0.0 then clamped f else bounded (truncated f)
    some (Format.formatInteger d letter n)
  | 'e' | 'E' | 'f' | 'g' | 'G' => some (formatFloat d letter v.toFloat)
  | 'c' =>
    some (Format.pad d (cut (match v with
      | .number f => asCharacter f
      | .input s =>
        if looksNumeric s then asCharacter (leadingFloat s)
        else (s.toList.headD '\x00').toString
      | v => ((v.toText convert).toList.headD '\x00').toString)))
  | 's' => some (Format.pad d (cut (v.toText convert)))
  | _ => none

/-- The size letters that may stand in front of a directive's letter. -/
def withoutSize (cs : List Char) : List Char :=
  let isWhole (cs : List Char) : Bool := cs.head?.any fun c => "dioxXu".toList.contains c
  match cs with
  | 'h' :: 'h' :: rest | 'l' :: 'l' :: rest => if isWhole rest then rest else cs
  | 'h' :: rest | 'l' :: rest => if isWhole rest then rest else cs
  | cs => cs

/-- Write a format with values, up to what cannot be written. -/
def format (convert : String) : Nat → List Char → List Value → List String → String × Option String
  | 0, _, _, acc => (String.join acc.reverse, none)
  | n + 1, cs, values, acc =>
    let run := cs.takeWhile (· != '%')
    let acc := if run.isEmpty then acc else String.ofList run :: acc
    let stop (why : String) : String × Option String := (String.join acc.reverse, some why)
    match cs.drop run.length with
    | [] => (String.join acc.reverse, none)
    | _ :: '%' :: rest => format convert n rest values ("%" :: acc)
    | _ :: rest =>
      let (d, cs) := Format.flags rest {}
      /- A number of the format or a value; nothing where a value is missing. -/
      let measure (cs : List Char) (values : List Value) :
          Option (Option Int × List Char × List Value) :=
        match cs, values with
        | '*' :: cs, v :: values => some (some (truncated v.toFloat), cs, values)
        | '*' :: _, [] => none
        | cs, values =>
          let (v, count, rest) := takeDigits 10 cs 0 0
          some (if count = 0 then none else some v, rest, values)
      match measure cs values with
      | none => stop "not enough arguments passed"
      | some (width, cs, values) =>
        let d : Format.Directive := match width with
          | some w => { d with minus := d.minus || w < 0, width := w.natAbs }
          | none => d
        let behind := match cs with
          | '.' :: cs => (measure cs values).map fun (p, cs, values) =>
            let p := p.getD 0
            (({ d with precision := if p < 0 then none else some p.toNat } : Format.Directive),
              cs, values)
          | cs => some (d, cs, values)
        match behind with
        | none => stop "not enough arguments passed"
        | some (d, cs, values) =>
          match withoutSize cs, values with
          | [], _ => stop "improper conversion"
          | _ :: _, [] => stop "not enough arguments passed"
          | c :: rest, v :: values =>
            match formatValue? convert d c v with
            | some text => format convert n rest values (text :: acc)
            | none => stop "improper conversion"

end StreamSupervisor.Tool.Records
