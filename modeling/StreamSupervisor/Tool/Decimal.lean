import StreamSupervisor.Machine.Numeral

/-! # Decimal numbers

Numbers with a fraction: how they are read, how machines hold them, to so many binary digits,
and how they are written with a point or with a power of ten.
-/

namespace StreamSupervisor.Tool.Format

open Machine

/-- A decimal number: a sign and a whole number over a power of ten. -/
structure Decimal where
  negative : Bool
  digits : Nat
  scale : Nat

/-- Read a decimal number with a fraction and an exponent from the front of a text. -/
def readDecimal (cs : List Char) : Option (Decimal × List Char) :=
  let (negative, cs) := Numeral.sign (cs.dropWhile isSpace)
  let (whole, countWhole, rest) := takeDigits 10 cs 0 0
  let (value, countFraction, rest) :=
    match rest with
    | '.' :: more => takeDigits 10 more whole 0
    | _ => (whole, 0, rest)
  if countWhole + countFraction = 0 then none
  else
    let (exponent, rest) : Int × List Char :=
      match rest with
      | e :: more =>
        if e == 'e' || e == 'E' then
          let (minus, ds) := Numeral.sign more
          let (x, count, after) := takeDigits 10 ds 0 0
          if count = 0 then (0, rest) else (if minus then -x else x, after)
        else (0, rest)
      | [] => (0, [])
    let exponent := if exponent < -5000 then -5000 else if 5000 < exponent then 5000 else exponent
    let scale : Int := countFraction - exponent
    if scale < 0 then some (⟨negative, value * Nat.pow 10 (-scale).toNat, 0⟩, rest)
    else some (⟨negative, value, scale.toNat⟩, rest)

/-- A quotient rounded to the nearest whole number, a half to the even one. -/
def roundQuotient (a b : Nat) : Nat :=
  let q := a / b
  let r := a % b
  if 2 * r < b then q else if b < 2 * r then q + 1 else q + q % 2

def insertPoint (ds : String) (places : Nat) : String :=
  let cs := ds.toList
  let cs := List.replicate (places + 1 - cs.length) '0' ++ cs
  let whole := cs.take (cs.length - places)
  if places = 0 then String.ofList whole
  else String.ofList (whole ++ '.' :: cs.drop (cs.length - places))

def fixedText (x : Decimal) (places : Nat) : String :=
  insertPoint (digits 10 (roundQuotient (x.digits * Nat.pow 10 places) (Nat.pow 10 x.scale)))
    places

/-- The power of ten of the first digit. -/
def leading (x : Decimal) : Int :=
  if x.digits = 0 then 0 else ((digits 10 x.digits).length : Int) - 1 - x.scale

/-- So many digits of a number, and the power of ten of the first of them. -/
def significant (x : Decimal) (count : Nat) : String × Int :=
  if x.digits = 0 then (String.ofList (List.replicate count '0'), 0)
  else
    let e := leading x
    let shift : Int := (count : Int) - 1 - e
    let n :=
      if shift < 0 then roundQuotient x.digits (Nat.pow 10 (x.scale + (-shift).toNat))
      else roundQuotient (x.digits * Nat.pow 10 shift.toNat) (Nat.pow 10 x.scale)
    let ds := digits 10 n
    if count < ds.length then (String.ofList (ds.toList.take count), e + 1) else (ds, e)

def exponentText (x : Decimal) (places : Nat) : String :=
  let (ds, e) := significant x (places + 1)
  let mantissa := insertPoint ds places
  let ed := digits 10 e.natAbs
  mantissa ++ (if e < 0 then "e-" else "e+") ++ (if ed.length < 2 then "0" ++ ed else ed)

def dropZeros (s : String) : String :=
  if s.any (· == '.') then
    let cs := s.toList.reverse.dropWhile (· == '0')
    String.ofList (match cs with
      | '.' :: rest => rest.reverse
      | cs => cs.reverse)
  else s

def generalText (x : Decimal) (precision : Nat) (sharp : Bool) : String :=
  let p := if precision = 0 then 1 else precision
  let (_, e) := significant x p
  let trim (s : String) : String := if sharp then s else dropZeros s
  if e < -4 || (p : Int) ≤ e then
    match splitAtChar? 'e' (exponentText x (p - 1)) with
    | some (m, tail) => trim m ++ "e" ++ tail
    | none => ""
  else trim (fixedText x (p - 1 - e).toNat)

/-! ## Numbers as machines hold them -/

/-- What a text can stand for where numbers with a fraction are read. -/
inductive Quantity where
  | finite (x : Decimal)
  | infinite (negative : Bool)
  | notNumber (negative : Bool)

/-- The value of a number times a power of two. -/
def ofBinary (negative : Bool) (m : Nat) (exponent : Int) : Decimal :=
  if 0 ≤ exponent then ⟨negative, m * Nat.pow 2 exponent.toNat, 0⟩
  else
    let k := (-exponent).toNat
    ⟨negative, m * Nat.pow 5 k, k⟩

/-- How many binary digits are held, and the least and the greatest power of two. -/
structure Precision where
  bits : Nat
  least : Int
  greatest : Int

/-- Numbers of sixty-four bits. -/
def Precision.double : Precision := ⟨53, -1074, 971⟩

/-- Numbers of eighty bits. -/
def Precision.extended : Precision := ⟨64, -16445, 16320⟩

/-- The nearest number that is held, and nothing if the number is too large. A tie goes to the
even one. -/
def Decimal.held (p : Precision) (x : Decimal) : Option Decimal :=
  if x.digits = 0 then some { x with scale := 0 }
  else
    let den := Nat.pow 10 x.scale
    let size : Int := (Nat.log2 x.digits : Int) - Nat.log2 den
    let at_ (e : Int) : Nat :=
      if 0 ≤ e then roundQuotient x.digits (den * Nat.pow 2 e.toNat)
      else roundQuotient (x.digits * Nat.pow 2 (-e).toNat) den
    let isLarge (e : Int) : Bool :=
      if 0 ≤ e then decide (den * Nat.pow 2 (e.toNat + p.bits) ≤ x.digits)
      else decide (den * Nat.pow 2 p.bits ≤ x.digits * Nat.pow 2 (-e).toNat)
    let e := size - p.bits
    let e := if e < p.least then p.least else e
    let e := if isLarge e then e + 1 else e
    let m := at_ e
    let (m, e) := if m = Nat.pow 2 p.bits then (m / 2, e + 1) else (m, e)
    if p.greatest < e then none else some (ofBinary x.negative m e)

/-- A number that is held, in base sixteen with a power of two: the first digit takes as many
bits as are left when the others take four each. -/
def hexadecimalText (p : Precision) (x : Decimal) (places : Option Nat) (sharp : Bool) :
    String :=
  let most := (p.bits - 1) / 4
  let joined (first ds : String) : String :=
    first ++ (if ds.isEmpty && !sharp then "" else "." ++ ds)
  if x.digits = 0 then
    joined "0" (String.ofList (List.replicate (places.getD 0) '0')) ++ "p+0"
  else
    /- The number is a whole one over a power of two. -/
    let m := x.digits / Nat.pow 5 x.scale
    let size : Int := (Nat.log2 m + 1 : Nat)
    let shift : Int := p.bits - size
    let whole := if 0 ≤ shift then m * Nat.pow 2 shift.toNat else m / Nat.pow 2 (-shift).toNat
    let exponent : Int := -(x.scale : Int) - shift + 4 * most
    let kept := Nat.min most (places.getD most)
    let rounded := roundQuotient whole (Nat.pow 16 (most - kept))
    let first := rounded / Nat.pow 16 kept
    let ds := digits 16 (rounded % Nat.pow 16 kept)
    let ds := if kept = 0 then ""
      else String.ofList (List.replicate (kept - ds.length) '0') ++ ds
    let ds := match places with
      | none => String.ofList (ds.toList.reverse.dropWhile (· == '0')).reverse
      | some n => ds ++ String.ofList (List.replicate (n - most) '0')
    joined (digits 16 first) ds ++ (if exponent < 0 then "p-" else "p+") ++
      toString exponent.natAbs

/-- Whether a text begins with a word, in capitals or not, and what follows it. -/
def dropWord? (word : String) (cs : List Char) : Option (List Char) :=
  if (cs.take word.length).map Char.toLower == word.toList then some (cs.drop word.length)
  else none

/-- The digits of a number in base sixteen with its power of two, behind their mark. -/
def readBinary (negative : Bool) (cs : List Char) : Option (Decimal × List Char) :=
  let (whole, countWhole, rest) := takeDigits 16 cs 0 0
  let (value, countFraction, rest) :=
    match rest with
    | '.' :: more => takeDigits 16 more whole 0
    | _ => (whole, 0, rest)
  if countWhole + countFraction = 0 then none
  else
    let (exponent, rest) : Int × List Char :=
      match rest with
      | e :: more =>
        if e == 'p' || e == 'P' then
          let (minus, ds) := Numeral.sign more
          let (x, count, after) := takeDigits 10 ds 0 0
          if count = 0 then (0, rest) else (if minus then -x else x, after)
        else (0, rest)
      | [] => (0, [])
    let exponent := if exponent < -20000 then -20000 else if 20000 < exponent then 20000
      else exponent
    some (ofBinary negative value (exponent - 4 * countFraction), rest)

/-- Read a number with a fraction, or one of the words for what is none. -/
def readQuantity (p : Precision) (cs : List Char) : Option (Quantity × List Char) :=
  let (negative, body) := Numeral.sign (cs.dropWhile isSpace)
  let whole : Option (Decimal × List Char) :=
    match body with
    | '0' :: x :: more =>
      if Numeral.isHexMark x then
        match readBinary negative more with
        | some r => some r
        | none => some (⟨negative, 0, 0⟩, x :: more)
      else readDecimal cs
    | _ => readDecimal cs
  match whole with
  | some (x, rest) =>
    some ((match x.held p with
      | some y => Quantity.finite y
      | none => .infinite negative), rest)
  | none =>
    match dropWord? "infinity" body, dropWord? "inf" body, dropWord? "nan" body with
    | some rest, _, _ | none, some rest, _ => some (.infinite negative, rest)
    | none, none, some rest =>
      let inner := (rest.drop 1).takeWhile isNameChar
      let after := (rest.drop 1).drop inner.length
      if rest.head? == some '(' && after.head? == some ')' then
        some (.notNumber negative, after.drop 1)
      else some (.notNumber negative, rest)
    | none, none, none => none

end StreamSupervisor.Tool.Format
