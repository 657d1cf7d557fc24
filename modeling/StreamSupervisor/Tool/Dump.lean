import StreamSupervisor.Tool.Pieces

/-! # Dumps

The bytes of a stream, shown as numbers or characters, block by block.
-/

namespace StreamSupervisor.Tool

open Machine

namespace Dump

/-- How the bytes of a block are shown: as numbers of some size to a base, or as characters. -/
structure Shape where
  /-- One of the letters a, c, d, o, u and x. -/
  letter : Char
  size : Nat := 1
  /-- Whether the characters are shown at the end of the line, too. -/
  trailer : Bool := false

def shapes? : Nat → List Char → List Shape → Option (List Shape)
  | 0, _, _ => none
  | _ + 1, [], acc => some acc.reverse
  | n + 1, c :: rest, acc =>
    let finish (s : Shape) (rest : List Char) : Option (List Shape) :=
      match rest with
      | 'z' :: more => shapes? n more ({ s with trailer := true } :: acc)
      | more => shapes? n more (s :: acc)
    if c == 'a' || c == 'c' then finish { letter := c } rest
    else if "doux".toList.contains c then
      let (size, rest) : Nat × List Char := match rest with
        | 'C' :: rest => (1, rest)
        | 'S' :: rest => (2, rest)
        | 'I' :: rest => (4, rest)
        | 'L' :: rest => (8, rest)
        | rest =>
          let (v, count, after) := takeDigits 10 rest 0 0
          if count = 0 then (4, rest) else (v, after)
      if [1, 2, 4, 8].contains size then finish { letter := c, size := size } rest else none
    else if c == 'f' then
      let rest := rest.dropWhile fun d => isDigit d || d == 'F' || d == 'D' || d == 'L'
      finish { letter := 'x', size := 8 } rest
    else none

/-- How many columns a value takes. -/
def Shape.width (s : Shape) : Nat :=
  let at_ (ws : List Nat) : Nat := (ws[s.size.log2]?).getD 3
  match s.letter with
  | 'o' => at_ [3, 6, 11, 22]
  | 'd' => at_ [4, 6, 11, 20]
  | 'u' => at_ [3, 5, 10, 20]
  | 'x' => at_ [2, 4, 8, 16]
  | _ => 3

def characterNames : List String :=
  ["nul", "soh", "stx", "etx", "eot", "enq", "ack", "bel", "bs", "ht", "nl", "vt", "ff", "cr",
    "so", "si", "dle", "dc1", "dc2", "dc3", "dc4", "nak", "syn", "etb", "can", "em", "sub",
    "esc", "fs", "gs", "rs", "us", "sp"]

def leftPadded (width : Nat) (fill : Char) (s : String) : String :=
  String.ofList (List.replicate (width - s.length) fill) ++ s

/-- A value, without the blanks before it. -/
def Shape.item (s : Shape) (big : Bool) (bytes : List Nat) : String :=
  let v := (if big then bytes else bytes.reverse).foldl (fun n b => n * 256 + b) 0
  match s.letter with
  | 'o' => leftPadded s.width '0' (digits 8 v)
  | 'x' => leftPadded s.width '0' (digits 16 v)
  | 'u' => digits 10 v
  | 'd' =>
    let half := Nat.pow 256 s.size / 2
    toString (if v < half then (v : Int) else (v : Int) - 2 * half)
  | 'a' =>
    let v := v % 128
    if v = 127 then "del" else (characterNames[v]?).getD (Char.ofNat v).toString
  | _ =>
    match v with
    | 0 => "\\0"
    | 7 => "\\a"
    | 8 => "\\b"
    | 9 => "\\t"
    | 10 => "\\n"
    | 11 => "\\v"
    | 12 => "\\f"
    | 13 => "\\r"
    | v =>
      if 32 ≤ v && v < 127 then (Char.ofNat v).toString else leftPadded 3 '0' (digits 8 v)

/-- How a stream is shown. -/
structure Plan where
  shapes : List Shape
  block : Nat
  radix : String
  big : Bool
  repeats : Bool

/-- How many columns the values of a block take at most, with a blank before each. -/
def Plan.columns (p : Plan) : Nat :=
  p.shapes.foldl (fun n s => Nat.max n (p.block / s.size * (s.width + 1))) 0

/-- The values of a block in one shape. The columns are spread so that all shapes fill them. -/
def Plan.line (p : Plan) (s : Shape) (row : List Nat) : String :=
  let fields := p.block / s.size
  let spare := p.columns - fields * s.width
  let cells := chunks s.size (row.length + 1) row
  let cells := cells.map fun c => c ++ List.replicate (s.size - c.length) 0
  let spareAfter (i : Nat) : Nat := spare * (fields - i - 1) / fields
  let shown := cells.zipIdx.map fun (c, i) =>
    let before := if i = 0 then spare else spareAfter (i - 1)
    leftPadded (before - spareAfter i + s.width) ' ' (s.item p.big c)
  let text := String.join shown
  if s.trailer then
    let blanks := fields - cells.length
    let fill := blanks * s.width + spare * blanks / fields
    let cs := row.map fun v => if 32 ≤ v && v < 127 then Char.ofNat v else '.'
    text ++ String.ofList (List.replicate fill ' ') ++ "  >" ++ String.ofList cs ++ "<"
  else text

def Plan.address (p : Plan) (n : Nat) : String :=
  match p.radix with
  | "n" => ""
  | "d" => leftPadded 7 '0' (digits 10 n)
  | "x" => leftPadded 6 '0' (digits 16 n)
  | _ => leftPadded 7 '0' (digits 8 n)

/-- Show the blocks; a star stands for further blocks that are the same as the last one. -/
def Plan.rows (p : Plan) : Nat → Option (List Nat) → Bool → List (List Nat) → Chore Unit
  | _, _, _, [] => pure ()
  | place, last, starred, row :: rest => do
    if last == some row && !p.repeats && row.length = p.block then do
      if !starred then say "*\n"
      p.rows (place + row.length) last true rest
    else do
      for (s, j) in p.shapes.zipIdx do
        let front := if j = 0 then p.address place
          else String.ofList (List.replicate (p.address 0).length ' ')
        say (front ++ p.line s row ++ "\n")
      p.rows (place + row.length) (some row) false rest

/-- The runs of so many printable characters at least that end with a zero byte. -/
def strings (least : Nat) : List Nat → Nat → List Nat → List (Nat × List Nat)
  | [], _, _ => []
  | v :: rest, place, run =>
    if 32 ≤ v && v < 127 then strings least rest (place + 1) (v :: run)
    else
      let after := strings least rest (place + 1) []
      if v = 0 && least ≤ run.length then (place - run.length, run.reverse) :: after else after

/-- A number of bytes to skip or to read, which may be written to another base. -/
def amount? (v : String) : Option Nat :=
  match v.toList with
  | '0' :: 'x' :: _ | '0' :: 'X' :: _ => (Machine.number? 0 v).map Int.toNat
  | '0' :: rest =>
    if !rest.isEmpty && rest.all (between '0' '7') then some (takeDigits 8 rest 0 0).1
    else (count? v).map (·.value)
  | _ => (count? v).map (·.value)

end Dump

def dumpBytes (args : List String) : Chore Nat :=
  let isAmount (v : String) : Bool := (Dump.amount? v).isSome
  withOptions { letters := "A:aBbcDdeFfHhIij:LlN:OoS:st:vw::Xx", long := [("skip-bytes",
    .required), ("address-radix", .required), ("read-bytes", .required), ("format", .required),
    ("output-duplicates", .none), ("strings", .optional), ("traditional", .none),
    ("width", .optional), ("endian", .required)], checks := [
      ⟨["A", "address-radix"], 1, fun v => v.toList.head?.any fun c => "doxn".toList.contains c⟩,
      ⟨["t", "format"], 1, fun v => (Dump.shapes? (v.length + 1) v.toList []).isSome⟩,
      ⟨["N", "j", "w", "S", "skip-bytes", "read-bytes", "width", "strings"], 1, isAmount⟩,
      .words ["endian"] ["little", "big"]] } 1 args fun chosen names => do
    let number (ns : List String) : Option Nat := (valueOf? chosen ns).bind Dump.amount?
    let skip := (number ["j", "skip-bytes"]).getD 0
    let most := number ["N", "read-bytes"]
    let (text, ok) ← match names, most with
      | [], some n => do
        let (parts, code) ← foldInputs [] 1 "" fun _ _ d => do
          match ← Asking.ask (.read d (skip + n)) with
          | .text s => pure s
          | _ => pure ""
        pure (parts, code == 0)
      | _, _ => allText names
    if text.length < skip then
      warn "od: cannot skip past end of combined input"
      return 1
    let bs := (text.toList.drop skip).map (·.toNat)
    let bs := match most with
      | some n => bs.take n
      | none => bs
    let short : List (String × Dump.Shape) := [("a", { letter := 'a' }),
      ("b", { letter := 'o' }), ("B", { letter := 'o', size := 2 }), ("c", { letter := 'c' }),
      ("d", { letter := 'u', size := 2 }), ("D", { letter := 'u', size := 4 }),
      ("o", { letter := 'o', size := 2 }), ("O", { letter := 'o', size := 4 }),
      ("x", { letter := 'x', size := 2 }), ("X", { letter := 'x', size := 4 }),
      ("h", { letter := 'x', size := 2 }), ("H", { letter := 'x', size := 4 }),
      ("i", { letter := 'd', size := 4 }), ("I", { letter := 'd', size := 8 }),
      ("l", { letter := 'd', size := 8 }), ("L", { letter := 'd', size := 8 }),
      ("s", { letter := 'd', size := 2 })]
    let shapes := chosen.flatMap fun c =>
      if c.name == "t" || c.name == "format" then
        (Dump.shapes? ((c.value.getD "").length + 1) (c.value.getD "").toList []).getD []
      else (short.lookup c.name).toList
    let shapes := if shapes.isEmpty then [{ letter := 'o', size := 2 }] else shapes
    let unit := shapes.foldl (fun n s => Nat.max n s.size) 1
    let wanted := if has chosen ["w", "width"] then (number ["w", "width"]).getD 32 else 16
    let block := if 0 < wanted && wanted % unit = 0 then wanted
      else if has chosen ["w", "width"] then unit else unit * (16 / unit)
    let plan : Dump.Plan := {
      shapes := shapes
      block := block
      radix := String.ofList (((valueOf? chosen ["A", "address-radix"]).getD "o").toList.take 1)
      big := (valueOf? chosen ["endian"]).any (·.startsWith "b")
      repeats := has chosen ["v", "output-duplicates"] }
    if has chosen ["S", "strings"] then
      let least := (number ["S", "strings"]).getD 3
      for (place, run) in Dump.strings least bs skip [] do
        let front := plan.address place
        say (front ++ (if front.isEmpty then "" else " ") ++
          String.ofList (run.map Char.ofNat) ++ "\n")
    else
      plan.rows skip none false (chunks block (bs.length + 1) bs)
      if plan.radix != "n" && (ok || !bs.isEmpty) then say (plan.address (skip + bs.length) ++ "\n")
    finish (if ok then 0 else 1)

end StreamSupervisor.Tool
