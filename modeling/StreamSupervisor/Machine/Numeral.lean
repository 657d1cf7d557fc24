import StreamSupervisor.Machine.Bytes

/-! # Numerals

How texts are read as whole numbers of sixty-four bits: blanks, a sign, perhaps a sign of
the base, then digits. What follows the digits is handed back.
-/

namespace StreamSupervisor.Machine

def greatest : Int := 9223372036854775807
def least : Int := -9223372036854775808

/-- A number as sixty-four bits hold it. -/
def wrap (n : Int) : Int :=
  let r := n % 18446744073709551616
  if r ≤ greatest then r else r - 18446744073709551616

/-- A number at the front of a text. -/
structure Numeral where
  value : Int
  /-- What follows the digits. -/
  rest : List Char
  /-- Whether there were any digits. -/
  found : Bool
  /-- Whether the number is within sixty-four bits. -/
  fits : Bool

namespace Numeral

/-- The sign of a number, and what follows it. -/
def sign : List Char → Bool × List Char
  | '-' :: rest => (true, rest)
  | '+' :: rest => (false, rest)
  | rest => (false, rest)

def isHexMark (c : Char) : Bool := c == 'x' || c == 'X'

/-- The base that the front of a number shows, with the digits that follow. -/
def base : List Char → Nat × List Char
  | '0' :: x :: d :: rest =>
    if isHexMark x && (digitValue? d).any (· < 16) then (16, d :: rest)
    else (8, '0' :: x :: d :: rest)
  | '0' :: rest => (8, '0' :: rest)
  | rest => (10, rest)

/-- Read a number in a base; base zero stands for the base that the number shows. -/
def read (b : Nat) (s : List Char) : Numeral :=
  let (negative, s') := sign (s.dropWhile isSpace)
  let (b, ds) := if b = 0 then base s' else (b, s')
  let (n, count, rest) := takeDigits b ds 0 0
  let value : Int := if negative then -n else n
  { value := if value < least then least else if greatest < value then greatest else value
    rest := if count = 0 then s else rest
    found := count ≠ 0
    fits := least ≤ value && value ≤ greatest }

end Numeral

/-- A whole text as a number in a base, with blanks allowed at both ends. -/
def number? (b : Nat) (s : String) : Option Int :=
  let n := Numeral.read b s.toList
  if n.found && n.fits && n.rest.all isSpace then some n.value else none

/-- A whole text as a number in base ten that is not negative and has thirty-one bits. -/
def count? (s : String) : Option Nat :=
  match number? 10 s with
  | some n => if 0 ≤ n && n ≤ 2147483647 then some n.toNat else none
  | none => none

end StreamSupervisor.Machine
