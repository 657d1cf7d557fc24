import StreamSupervisor.Machine.Bytes

/-! # Order of versions

The order in which people expect names with version numbers: numbers within them count as
numbers, a tilde comes before everything, and the endings of file names count only where
the rest is the same.
-/

namespace StreamSupervisor.Version

open Machine

/-- The rank of a place in a name; the end of the name comes before all but a tilde. -/
def rank : List Char → Int
  | [] => -1
  | c :: _ =>
    if isDigit c then 0
    else if isLetter c then c.toNat
    else if c == '~' then -2
    else c.toNat + 256

/-- Compare the stretches in front of the next numbers, and hand back what follows them. -/
def compareStretch : List Char → List Char → Ordering × List Char × List Char
  | [], [] => (.eq, [], [])
  | a :: as, [] =>
    if isDigit a then (.eq, a :: as, []) else (compare (rank (a :: as)) (rank []), as, [])
  | [], b :: bs =>
    if isDigit b then (.eq, [], b :: bs) else (compare (rank []) (rank (b :: bs)), [], bs)
  | a :: as, b :: bs =>
    if isDigit a && isDigit b then (.eq, a :: as, b :: bs)
    else
      match compare (rank (a :: as)) (rank (b :: bs)) with
      | .eq => compareStretch as bs
      | o => (o, as, bs)

/-- Compare two numbers that are written without zeros in front. -/
def compareDigits (a b : List Char) : Ordering :=
  match compare a.length b.length with
  | .eq => compare ((takeDigits 10 a 0 0).1) ((takeDigits 10 b 0 0).1)
  | o => o

/-- Compare stretch by stretch and number by number. -/
def compareParts : Nat → List Char → List Char → Ordering
  | 0, _, _ => .eq
  | n + 1, a, b =>
    if a.isEmpty && b.isEmpty then .eq
    else
      match compareStretch a b with
      | (.eq, a, b) =>
        let a := a.dropWhile (· == '0')
        let b := b.dropWhile (· == '0')
        let x := a.takeWhile isDigit
        let y := b.takeWhile isDigit
        match compareDigits x y with
        | .eq => compareParts n (a.drop x.length) (b.drop y.length)
        | o => o
      | (o, _, _) => o

/-- The part of a name in front of its endings. -/
def stem (cs : List Char) : List Char :=
  cs.take (go (cs.length + 1) cs 0 0)
where
  /-- How much of the name is passed over by an ending at the front, and what follows. -/
  ending (rest : List Char) (place : Nat) : List Char × Nat :=
    match rest with
    | '.' :: c :: more =>
      if isLetter c || c == '~' then
        let body := more.takeWhile fun c => isLetter c || isDigit c || c == '~'
        (more.drop body.length, place + 2 + body.length)
      else (rest, place)
    | _ => (rest, place)
  endings : Nat → List Char → Nat → List Char × Nat
    | 0, rest, place => (rest, place)
    | n + 1, rest, place =>
      let (rest', place') := ending rest place
      if place' = place then (rest, place) else endings n rest' place'
  go : Nat → List Char → Nat → Nat → Nat
    | 0, _, _, length => length
    | _ + 1, [], _, length => length
    | n + 1, _ :: rest, place, _ =>
      let (rest', place') := endings (rest.length + 1) rest (place + 1)
      go n rest' place' (place + 1)

/-- How hidden a name is: the directory itself, the one above it, names with a dot in front,
and all others. -/
def tier (cs : List Char) : Nat :=
  match cs with
  | ['.'] => 0
  | ['.', '.'] => 1
  | '.' :: _ => 2
  | _ => 3

/-- The order of two names. -/
def order (a b : List Char) : Ordering :=
  let fuel := a.length + b.length + 2
  if a.isEmpty || b.isEmpty then compare a.length b.length
  else
    match compare (tier a) (tier b) with
    | .eq =>
      match compareParts fuel (stem a) (stem b) with
      | .eq => compareParts fuel a b
      | o => o
    | o => o

end StreamSupervisor.Version
