import StreamSupervisor.Machine.Numeral

/-! # Durations

Spans of time as numbers with a unit: whole or with a fraction, decimal or hexadecimal,
with or without an exponent, or without end.
-/

namespace StreamSupervisor.Tool

open Machine

/-- A time to wait. -/
inductive Duration where
  | micros (n : Nat)
  | forever
deriving DecidableEq, Repr

namespace Duration

def add : Duration → Duration → Duration
  | micros a, micros b => micros (a + b)
  | _, _ => forever

/-- The seconds in a unit. -/
def unitSeconds? : List Char → Option Nat
  | [] | ['s'] => some 1
  | ['m'] => some 60
  | ['h'] => some 3600
  | ['d'] => some 86400
  | _ => none

/-- A number as a quotient, and what follows it. -/
structure Quotient where
  upper : Nat
  lower : Nat
  rest : List Char

/-- An exponent behind its letter; a letter without digits belongs to what follows. -/
def exponent? (letter : Char) : List Char → Option (Int × List Char)
  | c :: rest =>
    if c.toLower == letter then
      let (negative, ds) := Numeral.sign rest
      let (v, count, after) := takeDigits 10 ds 0 0
      if count = 0 then none else some (if negative then -v else v, after)
    else none
  | [] => none

/-- Multiply by a power that is not taken further than anybody would wait. -/
def scale (base : Nat) (e : Int) (q : Quotient) : Quotient :=
  let n := if e.natAbs < 400 then e.natAbs else 400
  if e < 0 then { q with lower := q.lower * Nat.pow base n }
  else { q with upper := q.upper * Nat.pow base n }

def number? (cs : List Char) : Option Quotient :=
  let (base, letter, step, body) : Nat × Char × Nat × List Char :=
    match cs with
    | '0' :: x :: d :: rest =>
      if Numeral.isHexMark x && (d == '.' || (digitValue? d).any (· < 16)) then
        (16, 'p', 2, d :: rest)
      else (10, 'e', 10, cs)
    | cs => (10, 'e', 10, cs)
  let (whole, countWhole, rest) := takeDigits base body 0 0
  let (value, countFraction, rest) :=
    match rest with
    | '.' :: more => takeDigits base more whole 0
    | _ => (whole, 0, rest)
  if countWhole + countFraction = 0 then none
  else
    let q : Quotient := ⟨value, Nat.pow base countFraction, rest⟩
    match exponent? letter rest with
    | some (e, after) => some (scale step e { q with rest := after })
    | none => some q

/-- Read one duration. -/
def ofText? (s : String) : Option Duration :=
  let (negative, cs) := Numeral.sign (s.toList.dropWhile isSpace)
  let word := (String.ofList (cs.takeWhile isLetter)).toLower
  if word.startsWith "inf" then
    let after := cs.drop (if word.startsWith "infinity" then 8 else 3)
    if negative then none else (unitSeconds? after).map fun _ => forever
  else
    match number? cs with
    | none => none
    | some q =>
      if negative && q.upper != 0 then none
      else
        (unitSeconds? q.rest).map fun seconds =>
          micros ((q.upper * seconds * 1000000 + (q.lower - 1)) / q.lower)

/-- Read durations that are added up. -/
def ofTexts? (l : List String) : Option Duration :=
  (l.mapM ofText?).map fun ds => ds.foldl add (micros 0)

end Duration

end StreamSupervisor.Tool
