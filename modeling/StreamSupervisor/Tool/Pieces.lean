import StreamSupervisor.Tool.Layout
import StreamSupervisor.Tool.Streams

/-! # Pieces

Programs that cut what they read into several files: by size, by number, or where a pattern
matches.
-/

namespace StreamSupervisor.Tool

open Machine

/-! ## By size or number -/

/-- In what way an input is cut. -/
inductive Cutting where
  | lines (count : Nat)
  | bytes (count : Nat)
  /-- Whole lines, as many as fit into so many bytes. -/
  | lineBytes (count : Nat)
  /-- So many parts of equal size. -/
  | parts (count : Nat)
  /-- So many parts of about equal size, of whole lines. -/
  | lineParts (count : Nat)
  /-- So many parts, to which lines are dealt out in turn. -/
  | dealt (count : Nat)

/-- What a number of parts says: how to cut, and which part alone is to be shown. -/
def Cutting.ofText? (v : String) : Option (Cutting × Option Nat) :=
  let number (s : String) : Option Nat :=
    if isDigits s then s.toNat?.filter (0 < ·) else none
  let pick (make : Nat → Cutting) (words : List String) : Option (Cutting × Option Nat) :=
    match words with
    | [n] => (number n).map fun n => (make n, none)
    | [k, n] =>
      match number k, number n with
      | some k, some n => if k ≤ n then some (make n, some k) else none
      | _, _ => none
    | _ => none
  match v.splitOn "/" with
  | "l" :: rest => pick .lineParts rest
  | "r" :: rest => pick .dealt rest
  | words => pick .parts words

/-- Lines put together as long as they fit into so many bytes; longer ones are cut. -/
def fitLines (size : Nat) : Nat → List String → String → List String
  | 0, _, held => [held]
  | _, [], held => if held.isEmpty then [] else [held]
  | n + 1, l :: ls, held =>
    if held.length + l.length ≤ size then fitLines size n ls (held ++ l)
    else if held.isEmpty then
      let cs := l.toList
      String.ofList (cs.take size) :: fitLines size n (String.ofList (cs.drop size) :: ls) ""
    else held :: fitLines size n (l :: ls) ""

/-- The pieces of a text whose lines end with a mark. -/
def Cutting.pieces (how : Cutting) (mark : String) (text : String) : List String :=
  let (ended, rest) := markedPieces mark text
  let ls := if rest.isEmpty then ended else ended ++ [rest]
  let size := text.length
  /- The last part takes what is left over. -/
  let bounds (n : Nat) : List Nat := (List.range n).map fun i =>
    if i + 1 = n then size else (i + 1) * Nat.max 1 (size / n)
  match how with
  | .lines n => (chunks n (ls.length + 1) ls).map String.join
  | .bytes n => (chunks n (size + 1) text.toList).map String.ofList
  | .lineBytes n => fitLines n (size + ls.length + 1) ls ""
  | .parts n =>
    let cs := text.toList
    (List.range n).map fun i =>
      let start := if i = 0 then 0 else ((bounds n)[i - 1]?).getD 0
      let stop := ((bounds n)[i]?).getD size
      String.ofList ((cs.drop start).take (stop - start))
  | .lineParts n =>
    /- A line belongs to the part in which it begins. -/
    let starts := ls.foldl (fun (done, place) l => ((place, l) :: done, place + l.length)) ([], 0)
    let placed := starts.1.reverse
    (List.range n).map fun i =>
      let start := if i = 0 then 0 else ((bounds n)[i - 1]?).getD 0
      let stop := ((bounds n)[i]?).getD size
      String.join ((placed.filter fun p => decide (start ≤ p.1) && decide (p.1 < stop)).map (·.2))
  | .dealt n =>
    (List.range n).map fun i =>
      String.join ((ls.zipIdx.filter fun p => p.2 % n == i).map (·.1))

/-- With what the names of pieces end. -/
structure Suffix where
  alphabet : List Char
  start : Nat := 0
  /-- How long it is; nothing if it grows when there are many pieces. -/
  width : Option Nat := none
  count : Nat := 2
  more : String := ""

/-- The digits of a number in an alphabet. -/
def Suffix.digitsOf (s : Suffix) (width : Nat) (n : Nat) : String :=
  let base := s.alphabet.length
  String.ofList ((List.range width).reverse.map fun i =>
    (s.alphabet[n / Nat.pow base i % base]?).getD 'a')

/-- The suffix of a piece; nothing if they are exhausted. One that grows begins with the last
letter, to keep the order of names. -/
def Suffix.of? (s : Suffix) (index : Nat) : Option String :=
  let base := s.alphabet.length
  match s.width with
  | some w =>
    if s.start + index < Nat.pow base w then some (s.digitsOf w (s.start + index) ++ s.more)
    else none
  | none =>
    let rec go : Nat → Nat → Nat → String
      | 0, w, n => s.digitsOf w n
      | fuel + 1, w, n =>
        let room := (base - 1) * Nat.pow base (w - 1)
        if n < room then s.digitsOf w n
        else (s.alphabet.getLastD 'z').toString ++ go fuel (w + 1) (n - room)
    some (go 20 s.count index ++ s.more)

def splitInput (args : List String) : Chore Nat :=
  let isCount (v : String) : Bool := (count? v).any fun c => c.sign.isNone && 0 < c.value
  withOptions { letters := "a:b:C:d::l:n:t:eux0123456789", long := [("bytes", .required),
    ("lines", .required), ("line-bytes", .required), ("number", .required),
    ("suffix-length", .required), ("additional-suffix", .required),
    ("numeric-suffixes", .optional), ("hex-suffixes", .optional), ("elide-empty-files", .none),
    ("filter", .required), ("separator", .required), ("unbuffered", .none),
    ("verbose", .none)], checks := [
      ⟨["b", "C", "l", "bytes", "lines", "line-bytes"], 1, isCount⟩,
      ⟨["a", "suffix-length"], 1, isDigits⟩,
      ⟨["additional-suffix"], 1, fun v => !v.contains '/'⟩,
      ⟨["t", "separator"], 1, fun v => v.length = 1 || v == "\\0"⟩,
      ⟨["n", "number"], 1, fun v => (Cutting.ofText? v).isSome⟩] } 1 (countsAs "-l" args)
    fun chosen names => do
    let stem := (names[1]?).getD "x"
    let number (ns : List String) : Option Nat := ((valueOf? chosen ns).bind count?).map (·.value)
    let ways := [["b", "bytes"], ["l", "lines"], ["C", "line-bytes"], ["n", "number"]]
    let given := chosen.filter fun c => ways.any (·.contains c.name)
    if 2 < names.length || 1 < given.length then do
      warn "split: cannot split in more than one way"
      return 1
    let mark := match valueOf? chosen ["t", "separator"] with
      | some "\\0" => "\x00"
      | some m => m
      | none => "\n"
    let (cutting, only) : Cutting × Option Nat :=
      match number ["b", "bytes"], number ["C", "line-bytes"],
        (valueOf? chosen ["n", "number"]).bind Cutting.ofText? with
      | some n, _, _ => (.bytes n, none)
      | _, some n, _ => (.lineBytes n, none)
      | _, _, some c => c
      | _, _, none => (.lines ((number ["l", "lines"]).getD 1000), none)
    let (text, ok) ← allText (names.take 1)
    if !ok then return 1
    let parts := cutting.pieces mark text
    match only with
    | some k => do
      say ((parts[k - 1]?).getD "")
      finish 0
    | none => do
      let isHex := has chosen ["x", "hex-suffixes"]
      let isDecimal := has chosen ["d", "numeric-suffixes"]
      let start := (((valueOf? chosen ["numeric-suffixes", "hex-suffixes"])).bind
        String.toNat?).getD 0
      let alphabet := if isHex then "0123456789abcdef".toList
        else if isDecimal then "0123456789".toList
        else "abcdefghijklmnopqrstuvwxyz".toList
      let asked := ((valueOf? chosen ["a", "suffix-length"]).bind String.toNat?).filter (0 < ·)
      /- Where the number of parts is known, the names are as long as it takes. -/
      let known : Bool := match cutting with
        | .parts _ | .lineParts _ | .dealt _ => true
        | _ => false
      let rec needed : Nat → Nat → Nat
        | 0, w => w
        | fuel + 1, w =>
          if Nat.pow alphabet.length w < parts.length then needed fuel (w + 1) else w
      let width : Option Nat := match asked with
        | some w => some w
        | none => if known || 0 < start then some (needed 20 2) else none
      let suffix : Suffix := { alphabet := alphabet, start := start, width := width
                               more := (valueOf? chosen ["additional-suffix"]).getD "" }
      let kept := if has chosen ["e", "elide-empty-files"] then parts.filter (!·.isEmpty)
        else parts
      let mut code := 0
      for (part, i) in kept.zipIdx do
        if code = 0 then
          match suffix.of? i with
          | none => do
            warn "split: output file suffixes exhausted"
            code := 1
          | some ending => do
            let path := stem ++ ending
            if has chosen ["verbose"] then say ("creating file \x27" ++ path ++ "\x27\n")
            match ← openFile path .writing with
            | .ok d => do
              let _ ← write d part
              close d
            | .error why => do
              warn ("split: " ++ path ++ ": " ++ why.text)
              code := 1
      finish code

/-! ## By patterns -/

/-- Where a piece ends. -/
inductive Border where
  /-- Before the line with a number, which grows by a step when it is used again. -/
  | line (number step : Nat)
  /-- So many lines from the next one on that matches; what comes before it may be dropped. -/
  | matching (pattern : Regex) (offset : Int) (dropped : Bool)

/-- How often a border is used again; nothing for as often as it can be found. -/
abbrev Borders := List (Border × Option Nat)

/-- Read the borders among the arguments. -/
def bordersOf? : List String → Borders → Option Borders
  | [], done => some done.reverse
  | a :: rest, done =>
    match a.toList with
    | '\x7b' :: cs =>
      let inner := String.ofList cs.dropLast
      match done with
      | (b, _) :: others =>
        if cs.getLast? != some '\x7d' then none
        else if inner == "*" then bordersOf? rest ((b, none) :: others)
        else if isDigits inner then bordersOf? rest ((b, inner.toNat?) :: others)
        else none
      | [] => none
    | c :: cs =>
      if c == '/' || c == '%' then
        let (before, offset) := match cs.reverse.span (· != c) with
          | (tail, _ :: front) => (some (String.ofList front.reverse), tail.reverse)
          | _ => (none, [])
        match before with
        | none => none
        | some pattern =>
          let shift := if offset.isEmpty then some 0 else Machine.number? 10 (String.ofList offset)
          match Regex.read false pattern, shift with
          | .ok (r, _), some k => bordersOf? rest ((.matching r k (c == '%'), some 0) :: done)
          | _, _ => none
      else if isDigits a && a.toNat? != some 0 then
        bordersOf? rest ((.line (a.toNat?.getD 1) (a.toNat?.getD 1), some 0) :: done)
      else none
    | [] => none

/-- The pieces between borders, and whether all borders were found. The flag tells pieces that
are dropped. -/
def cutAt (ls : Array String) : Nat → Borders → Nat → Nat → List (String × Bool) →
    List (String × Bool) × Bool
  | 0, _, _, _, out => (out.reverse, true)
  | fuel + 1, borders, start, from_, out =>
    let part (a b : Nat) : String :=
      String.join (((ls.toList.drop a).take (b - a)).map (· ++ "\n"))
    match borders with
    | [] => (((part start ls.size, false) :: out).reverse, true)
    | (b, again) :: others =>
      match b with
      | .line n step =>
        let stop := n - 1
        let advanced : Borders := match again with
          | some 0 => others
          | some (k + 1) => (.line (n + step) step, some k) :: others
          | none => (.line (n + step) step, none) :: others
        if ls.size < stop || stop < start then
          (((part start ls.size, false) :: out).reverse, false)
        else cutAt ls fuel advanced stop stop ((part start stop, false) :: out)
      | .matching r offset dropped =>
        let next : Borders := match again with
          | none => (b, none) :: others
          | some 0 => others
          | some (k + 1) => (b, some k) :: others
        let found := (List.range ls.size).find? fun i =>
          decide (from_ ≤ i) && Regex.isIn false r ((ls[i]?).getD "")
        match found with
        | none =>
          if again.isNone then (((part start ls.size, dropped) :: out).reverse, true)
          else (((part start ls.size, dropped) :: out).reverse, false)
        | some i =>
          let stop := (((i : Int) + offset).toNat)
          if ls.size < stop || ((i : Int) + offset) < (start : Int) then
            (((part start ls.size, dropped) :: out).reverse, false)
          else cutAt ls fuel next stop (Nat.max stop i + 1) ((part start stop, dropped) :: out)

def splitByContext (args : List String) : Chore Nat :=
  withOptions { letters := "b:f:kn:qsz", long := [("suffix-format", .required),
    ("prefix", .required), ("keep-files", .none), ("digits", .required), ("quiet", .none),
    ("silent", .none), ("elide-empty-files", .none), ("suppress-matched", .none)], checks := [
      ⟨["n", "digits"], 1, isDigits⟩] } 1 args fun chosen operands => do
    match operands with
    | name :: (pattern :: patterns) => do
      match bordersOf? (pattern :: patterns) [] with
      | none => do
        warn "csplit: invalid pattern"
        pure 1
      | some borders => do
        let (text, ok) ← allText [name]
        if !ok then return 1
        let stem := (valueOf? chosen ["f", "prefix"]).getD "xx"
        let width := ((valueOf? chosen ["n", "digits"]).bind String.toNat?).getD 2
        let ls := (lines text).toArray
        let (parts, found) := cutAt ls (2 * ls.size + borders.length + 2) borders 0 0 []
        let parts := (parts.filter (!·.2)).map (·.1)
        let parts := if has chosen ["z", "elide-empty-files"] then parts.filter (!·.isEmpty)
          else parts
        let keeps := has chosen ["k", "keep-files"]
        for (part, i) in parts.zipIdx do
          if !has chosen ["q", "s", "quiet", "silent"] then say (toString part.length ++ "\n")
          if found || keeps then
            let ds := toString i
            let ending := String.ofList (List.replicate (width - ds.length) '0') ++ ds
            match ← openFile (stem ++ ending) .writing with
            | .ok d => do
              let _ ← write d part
              close d
            | .error why => do
              warn ("csplit: " ++ why.text)
              return 1
        finish (if found then 0 else 1)
    | _ => do
      warn "csplit: missing operand"
      pure 1

end StreamSupervisor.Tool
