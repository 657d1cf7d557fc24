/-! # Numbers by chance

A row of numbers that a seed decides, each the sum of two that came before: the one thirty-one
places and the one three places back.
-/

namespace StreamSupervisor.Tool.Records

structure Chance where
  /-- The last thirty-one numbers. -/
  words : Array Nat
  /-- The place of the oldest of them. -/
  place : Nat

namespace Chance

/-- The next number, below two to the thirty-first. -/
def draw (c : Chance) : Nat × Chance :=
  let later := (c.place + 28) % 31
  let sum := ((c.words[c.place]?).getD 0 + (c.words[later]?).getD 0) % 4294967296
  (sum / 2, { words := c.words.setIfInBounds c.place sum, place := (c.place + 1) % 31 })

/-- Draw some numbers, which nobody sees. -/
def skip : Nat → Chance → Chance
  | 0, c => c
  | n + 1, c => skip n c.draw.2

/-- The first numbers are powers of a fixed one times the seed. -/
def firstWords : Nat → Nat → List Nat
  | 0, _ => []
  | n + 1, w => w :: firstWords n (w * 16807 % 2147483647)

/-- The row that a seed below two to the thirty-second begins. -/
def ofSeed (seed : Nat) : Chance :=
  let seed := if seed = 0 then 1 else seed
  let first : Nat := if seed < 2147483648 then seed else (seed + 2147483645) % 2147483647
  skip 310 { words := ((seed :: (firstWords 31 first).drop 1)).toArray, place := 0 }

end Chance

end StreamSupervisor.Tool.Records
