import StreamSupervisor.Tool.Columns

/-! # Amounts

Numbers with units behind them, turned into plain numbers and back.
-/

namespace StreamSupervisor.Tool

open Machine

namespace Amounts

/-- A number: a whole one divided by another. -/
structure Ratio where
  top : Int
  bottom : Nat := 1

def Ratio.scale (r : Ratio) (top bottom : Nat) : Ratio := ⟨r.top * top, r.bottom * bottom⟩

/-- Whether the number is at least so large, whatever its sign. -/
def Ratio.reaches (r : Ratio) (n : Nat) : Bool := decide (n * r.bottom ≤ r.top.natAbs)

/-- To which whole number others are turned. -/
inductive Rounding where
  | up
  | down
  | fromZero
  | towardsZero
  | nearest

def Rounding.ofText? (s : String) : Option Rounding :=
  ([("up", .up), ("down", .down), ("from-zero", .fromZero), ("towards-zero", .towardsZero),
    ("nearest", .nearest)] : List (String × Rounding)).findSome? fun p =>
      if p.1.startsWith s && !s.isEmpty then some p.2 else none

def Rounding.whole (how : Rounding) (r : Ratio) : Int :=
  let size := r.top.natAbs
  let sign (n : Nat) : Int := if r.top < 0 then -(n : Int) else n
  let high := (size + r.bottom - 1) / r.bottom
  let low := size / r.bottom
  match how with
  | .up => sign (if r.top < 0 then low else high)
  | .down => sign (if r.top < 0 then high else low)
  | .fromZero => sign high
  | .towardsZero => sign low
  | .nearest => sign ((2 * size + r.bottom) / (2 * r.bottom))

/-- Which units there are: none, by thousands or by powers of two, with a mark or without. -/
inductive Scale where
  | none
  | auto
  | thousands
  | powers
  | markedPowers
deriving DecidableEq

def Scale.ofText? (s : String) : Option Scale :=
  ([("none", .none), ("auto", .auto), ("si", .thousands), ("iec", .powers),
    ("iec-i", .markedPowers)] : List (String × Scale)).lookup s

def Scale.base : Scale → Nat
  | .powers | .markedPowers => 1024
  | _ => 1000

def units : List Char := "KMGTPEZY".toList

/-- A number with its unit, how many places its fraction has, and whether all is sound. -/
def read? (scale : Scale) (cs : List Char) : Option (Ratio × Nat) :=
  let (negative, body) : Bool × List Char := match cs with
    | '-' :: rest => (true, rest)
    | rest => (false, rest)
  let whole := body.takeWhile isDigit
  let rest := body.drop whole.length
  let (fraction, rest, isSound) : List Char × List Char × Bool := match rest with
    | '.' :: more =>
      let ds := more.takeWhile isDigit
      (ds, more.drop ds.length, !ds.isEmpty)
    | rest => ([], rest, true)
  let value := (takeDigits 10 (whole ++ fraction) 0 0).1
  let size : Ratio := ⟨if negative then -(value : Int) else value, Nat.pow 10 fraction.length⟩
  let power (u : Char) : Option Nat := (units.findIdx? (· == u)).map (· + 1)
  let times (u : Char) (base : Nat) : Option (Ratio × Nat) :=
    (power u).map fun k => (size.scale (Nat.pow base k) 1, 0)
  if whole.isEmpty && fraction.isEmpty || !isSound then Option.none
  else
    match rest, scale with
    | [], _ => some (size, fraction.length)
    | [u], .thousands | [u], .auto => times u 1000
    | [u], .powers => times u 1024
    | [u, 'i'], .markedPowers | [u, 'i'], .auto => times u 1024
    | _, _ => Option.none

/-- A whole number with so many places, in digits. -/
def decimalText (n : Int) (places : Nat) : String :=
  let ds := toString n.natAbs
  let ds := String.ofList (List.replicate (places + 1 - ds.length) '0') ++ ds
  let cs := ds.toList
  let front := String.ofList (cs.take (cs.length - places))
  let back := String.ofList (cs.drop (cs.length - places))
  (if n < 0 then "-" else "") ++ (if places = 0 then front else front ++ "." ++ back)

/-- Take out a factor as often as it is in a number, and count. -/
def Ratio.reduce (base : Nat) : Nat → Ratio → Nat → Ratio × Nat
  | 0, r, n => (r, n)
  | fuel + 1, r, n =>
    if r.reaches base then Ratio.reduce base fuel (r.scale 1 base) (n + 1) else (r, n)

/-- A number with the unit that leaves the fewest digits, and one place below ten. -/
def withUnit (scale : Scale) (how : Rounding) (places : Option Nat) (r : Ratio) : String :=
  let base := scale.base
  let (r, power) := r.reduce base 8 0
  let adjust := match places with
    | some p => Nat.min (power * 3) p
    | none => if r.reaches 10 then 0 else 1
  let n := how.whole (r.scale (Nat.pow 10 adjust) 1)
  let r : Ratio := ⟨n, Nat.pow 10 adjust⟩
  let (r, power) := if r.reaches base then (r.scale 1 base, power + 1) else (r, power)
  let shown := match places with
    | some p => p
    | none => if r.top != 0 && !r.reaches 10 && 0 < power then 1 else 0
  let text := decimalText (Rounding.nearest.whole (r.scale (Nat.pow 10 shown) 1)) shown
  let unit := if power = 0 then "" else ((units[power - 1]?).map (·.toString)).getD ""
  text ++ unit ++ (if scale = .markedPowers && 0 < power then "i" else "")

/-- How a number is laid out: what stands around it, its width, and its places. -/
structure Frame where
  before : String := ""
  after : String := ""
  width : Int := 0
  zeros : Bool := false
  places : Option Nat := none

/-- Read a layout: a percent sign, flags, a width, places and the letter f. -/
def Frame.ofText? (s : String) : Option Frame :=
  let rec literal : Nat → List Char → List Char → Option (List Char × List Char)
    | 0, _, _ => none
    | _, [], acc => some (acc.reverse, [])
    | n + 1, '%' :: '%' :: rest, acc => literal n rest ('%' :: acc)
    | _, '%' :: rest, acc => some (acc.reverse, '%' :: rest)
    | n + 1, c :: rest, acc => literal n rest (c :: acc)
  match literal (s.length + 1) s.toList [] with
  | some (before, '%' :: rest) =>
    let isFlag (c : Char) : Bool := c == ' ' || c == '\x27' || c == '0'
    let flags := rest.takeWhile isFlag
    let rest := rest.drop flags.length
    let (left, rest) := match rest with
      | '-' :: more => (true, more)
      | more => (false, more)
    let ws := rest.takeWhile isDigit
    let rest := rest.drop ws.length
    let (places, rest) : Option Nat × List Char := match rest with
      | '.' :: more =>
        let ds := more.takeWhile isDigit
        (some (takeDigits 10 ds 0 0).1, more.drop ds.length)
      | more => (none, more)
    match rest with
    | 'f' :: rest =>
      match literal (rest.length + 1) rest [] with
      | some (after, []) =>
        let width : Int := (takeDigits 10 ws 0 0).1
        some { before := String.ofList before, after := String.ofList after
               width := if left then -width else width
               zeros := flags.contains '0' && !left, places := places }
      | _ => none
    | _ => none
  | _ => none

/-- The size of a unit: a number, a letter, or both. -/
def unit? (v : String) : Option Nat :=
  let cs := v.toList
  let ds := cs.takeWhile isDigit
  let n := if ds.isEmpty then 1 else (takeDigits 10 ds 0 0).1
  let power (u : Char) : Option Nat := (units.findIdx? (· == u)).map (· + 1)
  let size := match cs.drop ds.length with
    | [] => if ds.isEmpty then none else some n
    | [u] => (power u).map fun k => n * Nat.pow 1000 k
    | [u, 'i'] => (power u).map fun k => n * Nat.pow 1024 k
    | _ => none
  size.filter (0 < ·)

/-- Everything that options say about how numbers are turned. -/
structure Plan where
  source : Scale
  target : Scale
  sourceUnit : Nat := 1
  targetUnit : Nat := 1
  rounding : Rounding
  suffix : String
  frame : Frame
  width : Int
  /-- Whether numbers take as many columns as they took before. -/
  keepsWidth : Bool
  delimiter : Option Char
  fields : List Range

/-- Blanks at the left of a text, or at its right for a negative width. -/
def aligned (width : Int) (s : String) : String :=
  let fill := String.ofList (List.replicate (width.natAbs - s.length) ' ')
  if width < 0 then s ++ fill else fill ++ s

/-- Turn a number. -/
def Plan.turn? (p : Plan) (width : Int) (word : String) : Option String :=
  let cs := word.toList.dropWhile fun c => c == ' ' || c == '\t'
  let ending := p.suffix.toList
  let core := if !ending.isEmpty && ending.isSuffixOf cs && ending.length < cs.length then
      cs.take (cs.length - ending.length)
    else cs
  (read? p.source core).map fun (r, places) =>
    let r := r.scale p.sourceUnit p.targetUnit
    let text := match p.target with
      | .none =>
        let places := p.frame.places.getD places
        decimalText (p.rounding.whole (r.scale (Nat.pow 10 places) 1)) places
      | scale => withUnit scale p.rounding p.frame.places r
    let text := if p.frame.zeros then
        let sign := if text.startsWith "-" then "-" else ""
        let body := dropChars sign.length text
        let fill := p.frame.width.natAbs - text.length
        sign ++ String.ofList (List.replicate fill '0') ++ body
      else aligned p.frame.width text
    aligned width (p.frame.before ++ text ++ p.suffix ++ p.frame.after)

/-- The words of a line, each with the blanks before it. -/
def paddedWords : Nat → List Char → List String
  | 0, _ => []
  | n + 1, cs =>
    if cs.isEmpty then []
    else
      let isGap (c : Char) : Bool := c == ' ' || c == '\t'
      let gap := cs.takeWhile isGap
      let word := (cs.drop gap.length).takeWhile fun c => !isGap c
      String.ofList (gap ++ word) :: paddedWords n (cs.drop (gap.length + word.length))

/-- Turn the numbers in the chosen fields of a line; the first one that is no number is told. -/
def Plan.line (p : Plan) (line : String) : String × Option String :=
  let fields := match p.delimiter with
    | some c => (line.split fun d => d == c).toStringList
    | none => paddedWords (line.length + 1) line.toList
  let turned := fields.zipIdx.map fun (f, i) =>
    if !(p.fields.any (·.holds (i + 1))) then (f, none)
    else
      let isFirst := i = 0
      match p.delimiter with
      | some _ => match p.turn? p.width f with
        | some t => (t, none)
        | none => (f, some f)
      | none =>
        /- The first blank before a further field sets it apart. -/
        let gap := if isFirst then "" else String.ofList (f.toList.take 1)
        let body := if isFirst then f else dropChars 1 f
        let padded := body.startsWith " " || body.startsWith "\t"
        let width : Int := if p.keepsWidth && (padded || !isFirst) then body.length else p.width
        match p.turn? width body with
        | some t => (gap ++ t, none)
        | none => (f, some body)
  let mark := (p.delimiter.map (·.toString)).getD ""
  (mark.intercalate (turned.map (·.1)), turned.findSome? (·.2))

end Amounts

def formatAmounts (args : List String) : Chore Nat :=
  let targets := ["none", "si", "iec", "iec-i"]
  let isUnit (v : String) : Bool := (Amounts.unit? v).isSome
  withOptions { letters := "d:z", long := [("to", .required), ("from", .required),
    ("field", .required), ("format", .required), ("header", .optional), ("invalid", .required),
    ("padding", .required), ("round", .required), ("suffix", .required), ("grouping", .none),
    ("delimiter", .required), ("to-unit", .required), ("from-unit", .required),
    ("zero-terminated", .none), ("debug", .none)], checks := [
      ⟨["to"], 1, targets.contains⟩, ⟨["from"], 1, ("auto" :: targets).contains⟩,
      .words ["invalid"] ["abort", "fail", "warn", "ignore"],
      ⟨["round"], 1, fun v => (Amounts.Rounding.ofText? v).isSome⟩,
      ⟨["from-unit", "to-unit"], 1, isUnit⟩, ⟨["d", "delimiter"], 1, (·.length ≤ 1)⟩,
      ⟨["padding"], 1, fun v => (Machine.number? 10 v).any (· != 0)⟩,
      ⟨["field"], 1, fun v => v == "-" || (rangesOf? v).isSome⟩,
      ⟨["header"], 1, fun v => isDigits v && v.toNat? != some 0⟩,
      ⟨["format"], 1, fun v => (Amounts.Frame.ofText? v).isSome⟩] } 1 args
    fun chosen operands => do
    let scale (n : String) : Amounts.Scale :=
      ((valueOf? chosen [n]).bind Amounts.Scale.ofText?).getD .none
    let unit (n : String) : Nat := ((valueOf? chosen [n]).bind Amounts.unit?).getD 1
    let frame := ((valueOf? chosen ["format"]).bind Amounts.Frame.ofText?).getD {}
    let padding := (valueOf? chosen ["padding"]).bind (Machine.number? 10)
    let delimiter := valueOf? chosen ["d", "delimiter"]
    if has chosen ["grouping"] && (has chosen ["format"] || scale "to" != .none) then
      warn "numfmt: grouping cannot be combined"
      return 1
    let plan : Amounts.Plan := {
      source := scale "from", target := scale "to"
      sourceUnit := unit "from-unit", targetUnit := unit "to-unit"
      rounding := ((valueOf? chosen ["round"]).bind Amounts.Rounding.ofText?).getD .fromZero
      suffix := (valueOf? chosen ["suffix"]).getD ""
      frame := frame
      width := padding.getD 0
      keepsWidth := padding.isNone && delimiter.isNone
      delimiter := delimiter.map fun d => d.toList.headD '\x00'
      fields := match valueOf? chosen ["field"] with
        | some "-" => [⟨1, none⟩]
        | some v => (rangesOf? v).getD []
        | none => [⟨1, some 1⟩] }
    let mark := if has chosen ["z", "zero-terminated"] then '\x00' else '\n'
    let header := if has chosen ["header"] then
        ((valueOf? chosen ["header"]).bind String.toNat?).getD 1
      else 0
    let policy := (valueOf? chosen ["invalid"]).getD "abort"
    let fromInput := operands.isEmpty
    let items ← if fromInput then do
        let text ← readAll 0
        pure (linesBy mark text)
      else pure operands
    let mut code := 0
    let mut stopped := false
    for (item, i) in items.zipIdx do
      if stopped then pure ()
      else if fromInput && i < header then say (item ++ mark.toString)
      else
        let (text, wrong) := plan.line item
        match wrong with
        | none => say (text ++ mark.toString)
        | some word => do
          if !policy.startsWith "i" then
            warn ("numfmt: invalid number: \x27" ++ word ++ "\x27")
          if policy.startsWith "a" then
            code := 2
            stopped := true
          else
            say (text ++ mark.toString)
            if policy.startsWith "f" then code := 2
    finish code

end StreamSupervisor.Tool
