import StreamSupervisor.Text.Version
import StreamSupervisor.Tool.Decimal
import StreamSupervisor.Tool.Streams

/-! # Sorting

Lines in the order of their keys. A key is a part of a line with a way to compare it; lines
with equal keys are put into the order of their bytes at last, unless that is not wanted.
-/

namespace StreamSupervisor.Tool

open Machine

namespace Sorting

/-- How the parts of lines are compared. -/
structure Manner where
  numeric : Bool := false
  general : Bool := false
  human : Bool := false
  months : Bool := false
  versions : Bool := false
  random : Bool := false
  /-- Only blanks, letters and digits count. -/
  dictionary : Bool := false
  /-- Only characters with a shape count. -/
  printing : Bool := false
  folded : Bool := false
  reversed : Bool := false
  /-- Blanks at the front and those before the end of a key do not count. -/
  skipsFront : Bool := false
  skipsEnd : Bool := false

def Manner.isUsual (m : Manner) : Bool :=
  !(m.numeric || m.general || m.human || m.months || m.versions || m.random || m.dictionary ||
    m.printing || m.folded || m.skipsFront || m.skipsEnd)

/-- Whether ways to compare were chosen that exclude each other. -/
def Manner.clashes (m : Manner) : Bool :=
  1 < [m.numeric, m.general, m.human, m.months,
    m.versions || m.random || m.dictionary || m.printing].countP id

/-- A key: the fields and characters between which it lies, counted from zero. -/
structure Key where
  field : Nat := 0
  place : Nat := 0
  /-- The field with which it ends; nothing for the end of the line. -/
  lastField : Option Nat := none
  lastPlace : Nat := 0
  manner : Manner := {}

def Manner.withLetter (m : Manner) (atEnd : Bool) (c : Char) : Manner :=
  match c with
  | 'n' => { m with numeric := true }
  | 'g' => { m with general := true }
  | 'h' => { m with human := true }
  | 'M' => { m with months := true }
  | 'V' => { m with versions := true }
  | 'R' => { m with random := true }
  | 'd' => { m with dictionary := true }
  | 'i' => { m with printing := true }
  | 'f' => { m with folded := true }
  | 'r' => { m with reversed := true }
  | 'b' => if atEnd then { m with skipsEnd := true } else { m with skipsFront := true }
  | _ => m

/-- The number of a field and of a character in it, with the letters behind them. -/
def readPlace (text : String) : Nat × Option Nat × List Char :=
  let (field, _, rest) := takeDigits 10 text.toList 0 0
  match rest with
  | '.' :: more =>
    let (place, _, rest) := takeDigits 10 more 0 0
    (field, some place, rest)
  | rest => (field, none, rest)

def Key.ofText (text : String) : Key :=
  let (front, back) : String × Option String :=
    match splitAtChar? ',' text with
    | some (a, b) => (a, some b)
    | none => (text, none)
  let (field, place, letters) := readPlace front
  let manner := letters.foldl (fun m c => m.withLetter false c) ({} : Manner)
  let key : Key := { field := field - 1, place := place.getD 1 - 1, manner := manner }
  match back with
  | none => key
  | some b =>
    let (field, place, letters) := readPlace b
    { key with
      lastField := some (field - 1), lastPlace := place.getD 0
      manner := letters.foldl (fun m c => m.withLetter true c) key.manner }

def isGap (c : Char) : Bool := c == ' ' || c == '\t' || c == '\n'

/-- What follows so many fields. -/
def skipFields (separator : Option Char) : Nat → List Char → List Char
  | 0, cs => cs
  | n + 1, cs =>
    match separator with
    | some s => skipFields separator n ((cs.dropWhile (· != s)).drop 1)
    | none => skipFields separator n ((cs.dropWhile isGap).dropWhile fun c => !isGap c)

/-- What follows so many fields, without the separator behind the last one. -/
def skipToEnd (separator : Option Char) (keepLast : Bool) : Nat → List Char → List Char
  | 0, cs => cs
  | n + 1, cs =>
    match separator with
    | some s =>
      let rest := cs.dropWhile (· != s)
      skipToEnd separator keepLast n (if n = 0 && !keepLast then rest else rest.drop 1)
    | none => skipToEnd separator keepLast n ((cs.dropWhile isGap).dropWhile fun c => !isGap c)

/-- The part of a line that a key stands for. -/
def Key.part (k : Key) (separator : Option Char) (line : List Char) : List Char :=
  let front := skipFields separator k.field line
  let front := if k.manner.skipsFront then front.dropWhile isGap else front
  let front := front.drop k.place
  match k.lastField with
  | none => front
  | some last =>
    let behind :=
      if k.lastPlace = 0 then skipToEnd separator false (last + 1) line
      else
        let rest := skipToEnd separator true last line
        let rest := if k.manner.skipsEnd then rest.dropWhile isGap else rest
        rest.drop k.lastPlace
    front.take (front.length - behind.length)

/-- A part of a line, made ready for comparing. -/
inductive Prepared where
  | text (cs : List Char)
  /-- A rank, then a whole number over a power of ten. -/
  | number (rank : Int) (value : Int) (scale : Nat)
  | version (cs : List Char)

def Prepared.compare : Prepared → Prepared → Ordering
  | .text a, .text b => bytesOrder a b
  | .number r v s, .number r' v' s' =>
    match Ord.compare r r' with
    | .eq => Ord.compare (v * (Nat.pow 10 s' : Nat)) (v' * (Nat.pow 10 s : Nat))
    | o => o
  | .version a, .version b => Version.order a b
  | _, _ => .eq
where
  bytesOrder : List Char → List Char → Ordering
    | [], [] => .eq
    | [], _ :: _ => .lt
    | _ :: _, [] => .gt
    | a :: as, b :: bs =>
      match Ord.compare a.toNat b.toNat with
      | .eq => bytesOrder as bs
      | o => o

/-- The plain number at the front of a text, and what follows it. -/
def leadingNumber (cs : List Char) : Int × Nat × List Char :=
  let cs := cs.dropWhile isGap
  let (negative, cs) : Bool × List Char := match cs with
    | '-' :: rest => (true, rest)
    | rest => (false, rest)
  let (whole, _, rest) := takeDigits 10 cs 0 0
  let (value, scale, rest) : Nat × Nat × List Char := match rest with
    | '.' :: more =>
      let (v, count, rest) := takeDigits 10 more whole 0
      (v, count, rest)
    | rest => (whole, 0, rest)
  (if negative then -value else value, scale, rest)

def monthWords : List String :=
  ["JAN", "FEB", "MAR", "APR", "MAY", "JUN", "JUL", "AUG", "SEP", "OCT", "NOV", "DEC"]

/-- A number that looks drawn by chance but is always the same for a text. -/
def scatter (cs : List Char) : Nat :=
  cs.foldl (fun h c => (h * 31 + c.toNat * 7919 + 17) % 1000003) 5381

def Manner.prepare (m : Manner) (cs : List Char) : Prepared :=
  if m.numeric then
    let (v, s, _) := leadingNumber cs
    .number 0 v s
  else if m.general then
    match Format.readQuantity .extended cs with
    | some (.finite x, _) => .number 3 (if x.negative then -x.digits else x.digits) x.scale
    | some (.infinite negative, _) => .number (if negative then 2 else 4) 0 0
    | some (.notNumber _, _) => .number 1 0 0
    | none => .number 0 0 0
  else if m.human then
    let (v, s, rest) := leadingNumber cs
    let unit : Int := match rest.head? with
      | some c => (("KMGTPEZY".toList.findIdx? (· == (if c == 'k' then 'K' else c))).map
          fun i => (i + 1 : Int)).getD 0
      | none => 0
    .number (if v = 0 then 0 else if v < 0 then -unit else unit) v s
  else if m.months then
    let word := String.ofList (((cs.dropWhile isGap).take 3).map Char.toUpper)
    .number (((monthWords.findIdx? (· == word)).map fun i => (i + 1 : Int)).getD 0) 0 0
  else if m.versions then .version cs
  else
    let cs := if m.dictionary then cs.filter fun c => isGap c || isLetter c || isDigit c else cs
    let cs := if m.printing then cs.filter (between ' ' '~') else cs
    let cs := if m.folded then cs.map Char.toUpper else cs
    if m.random then .number (scatter cs) 0 0 else .text cs

/-- A line with its keys made ready. -/
structure Entry where
  line : String
  parts : List Prepared

/-- How lines are compared altogether. -/
structure Rule where
  separator : Option Char := none
  keys : List Key := []
  reversed : Bool := false
  /-- Whether equal keys settle it. -/
  keysOnly : Bool := false

def Rule.entry (r : Rule) (line : String) : Entry :=
  if r.keys.isEmpty then ⟨line, []⟩
  else
    let cs := line.toList
    ⟨line, r.keys.map fun k => k.manner.prepare (k.part r.separator cs)⟩

def compareParts : List Key → List Prepared → List Prepared → Ordering
  | k :: keys, a :: as, b :: bs =>
    match a.compare b with
    | .eq => compareParts keys as bs
    | o => if k.manner.reversed then o.swap else o
  | _, _, _ => .eq

def Rule.compare (r : Rule) (a b : Entry) : Ordering :=
  match compareParts r.keys a.parts b.parts with
  | .eq =>
    if r.keysOnly && !r.keys.isEmpty then .eq
    else
      let o := if bytesBefore a.line b.line then .lt
        else if bytesBefore b.line a.line then .gt else .eq
      if r.reversed then o.swap else o
  | o => o

/-- Drop entries that are equal to the one kept before them. -/
def dropEqual (r : Rule) : List Entry → List Entry
  | a :: b :: rest =>
    if r.compare a b == .eq then dropEqual r (a :: rest) else a :: dropEqual r (b :: rest)
  | l => l
termination_by l => l.length

/-- Merge two lists as they are. -/
def mergeTwo (r : Rule) : Nat → List Entry → List Entry → List Entry → List Entry
  | 0, as, bs, acc => acc.reverse ++ as ++ bs
  | n + 1, a :: as, b :: bs, acc =>
    if r.compare a b == .gt then mergeTwo r n (a :: as) bs (b :: acc)
    else mergeTwo r n as (b :: bs) (a :: acc)
  | _ + 1, as, bs, acc => acc.reverse ++ as ++ bs

/-- Whether entries are in order, and none of them equal where that is asked for. -/
def isSorted (r : Rule) (unique : Bool) : List Entry → Bool
  | a :: b :: rest =>
    let o := r.compare a b
    o != .gt && !(unique && o == .eq) && isSorted r unique (b :: rest)
  | _ => true

/-- Whether a text names a place in a line: a field, a character in it, and how to compare. -/
def isPlace (last : Bool) (s : String) : Bool :=
  let (field, count, rest) := takeDigits 10 s.toList 0 0
  let (okay, rest) : Bool × List Char := match rest with
    | '.' :: more =>
      let (place, count, rest) := takeDigits 10 more 0 0
      (count != 0 && (last || place != 0), rest)
    | rest => (true, rest)
  count != 0 && field != 0 && okay && rest.all fun c => "bdfgiMhnRrV".toList.contains c

def isKey (s : String) : Bool :=
  match splitAtChar? ',' s with
  | some (a, b) => isPlace false a && isPlace true b
  | none => isPlace false s

/-- Old-fashioned keys are counted from zero behind a plus sign. -/
def oldKeys : List String → List String
  | a :: b :: rest =>
    if a.startsWith "+" && isDigits (dropChars 1 a) then
      let first := "-k" ++ toString (((dropChars 1 a).toNat?.getD 0) + 1)
      if b.startsWith "-" && isDigits (dropChars 1 b) then
        (first ++ "," ++ dropChars 1 b) :: oldKeys rest
      else first :: oldKeys (b :: rest)
    else a :: oldKeys (b :: rest)
  | l => l

/-- The letter of a long option about comparing. -/
def letterOf (name : String) : String :=
  ([("numeric-sort", "n"), ("general-numeric-sort", "g"), ("human-numeric-sort", "h"),
    ("month-sort", "M"), ("version-sort", "V"), ("random-sort", "R"),
    ("dictionary-order", "d"), ("ignore-nonprinting", "i"), ("ignore-case", "f"),
    ("reverse", "r"), ("ignore-leading-blanks", "b")].lookup name).getD name

/-- The letter of a kind of sorting that is told by a word. -/
def letterOfKind (word : String) : String :=
  match ["general-numeric", "human-numeric", "month", "numeric", "random", "version"].find?
      (·.startsWith word) with
  | some w => letterOf (w ++ "-sort")
  | none => ""

/-- The way to compare that the options choose where keys do not. -/
def globalManner (chosen : List Choice) : Manner :=
  chosen.foldl (fun m c =>
    let letter := if c.name == "sort" then letterOfKind (c.value.getD "") else letterOf c.name
    match letter.toList with
    | [l] =>
      let m := m.withLetter false l
      if l == 'b' then { m with skipsEnd := true } else m
    | _ => m) {}

/-- The rule that the options make. -/
def ruleOf (chosen : List Choice) : Rule :=
  let all := globalManner chosen
  let given := chosen.filterMap fun c =>
    if c.name == "k" || c.name == "key" then c.value.map Key.ofText else none
  let keys := given.map fun k =>
    if k.manner.isUsual && !k.manner.reversed then { k with manner := all } else k
  let keys :=
    if keys.isEmpty && !all.isUsual then [{ manner := all }] else keys
  let separator := (valueOf? chosen ["t", "field-separator"]).bind fun s =>
    if s == "\\0" then some '\x00' else s.toList.head?
  { separator := separator, keys := keys, reversed := all.reversed
    keysOnly := has chosen ["u", "unique", "s", "stable"] }

def options : Options :=
  let isSize (v : String) : Bool :=
    let rest := v.toList.dropWhile isDigit
    rest.length != v.length && (rest.isEmpty || rest.length = 1 && rest.all fun c =>
      "bkKmMgGtTPEZY%".toList.contains c)
  let isCount (least : Nat) (v : String) : Bool := isDigits v && least ≤ v.toNat?.getD 0
  { letters := "bcCdfghik:mMno:rRsS:t:T:uVy:z", long := [("check", .optional),
    ("numeric-sort", .none), ("reverse", .none), ("unique", .none), ("key", .required),
    ("output", .required), ("field-separator", .required), ("stable", .none),
    ("ignore-case", .none), ("version-sort", .none), ("human-numeric-sort", .none),
    ("general-numeric-sort", .none), ("merge", .none), ("zero-terminated", .none),
    ("dictionary-order", .none), ("ignore-leading-blanks", .none), ("month-sort", .none),
    ("random-sort", .none), ("sort", .required), ("parallel", .required),
    ("buffer-size", .required), ("temporary-directory", .required), ("debug", .none),
    ("files0-from", .required), ("compress-program", .required), ("batch-size", .required),
    ("random-source", .required), ("ignore-nonprinting", .none)], checks := [
      ⟨["k", "key"], 2, isKey⟩, ⟨["S", "buffer-size"], 2, isSize⟩,
      ⟨["t", "field-separator"], 2, fun v => v.length = 1 || v == "\\0"⟩,
      ⟨["parallel"], 2, isCount 1⟩, ⟨["batch-size"], 2, isCount 2⟩,
      .words ["sort"] ["general-numeric", "human-numeric", "month", "numeric", "random",
        "version"],
      .words ["check"] ["quiet", "silent", "diagnose-first"]] }

/-- The texts of all inputs; nothing if one cannot be read. -/
def texts (names : List String) : Chore (Option (List String)) := do
  let mut all : List String := []
  for name in (if names.isEmpty then ["-"] else names) do
    match ← openInput name with
    | none => return none
    | some d => do
      let s ← readAll d
      if name != "-" then close d
      all := s :: all
  pure (some all.reverse)

end Sorting

def sort (args : List String) : Chore Nat :=
  withOptions Sorting.options 2 (Sorting.oldKeys args) fun chosen names => do
    let rule := Sorting.ruleOf chosen
    let checking := has chosen ["c", "C", "check"]
    let unique := has chosen ["u", "unique"]
    let mark := if has chosen ["z", "zero-terminated"] then "\x00" else "\n"
    if (Sorting.globalManner chosen).clashes || rule.keys.any (·.manner.clashes) then do
      warn "sort: options are incompatible"
      pure 2
    else if checking && 1 < names.length || checking && has chosen ["o", "output"] then do
      warn "sort: extra operand not allowed"
      pure 2
    else do
      let listed ← match valueOf? chosen ["files0-from"] with
        | some path => do
          let (text, ok) ← allText [path]
          pure (if ok then some (text.splitOn "\x00" |>.filter (!·.isEmpty)) else none)
        | none => pure (some names)
      match ← (match listed with
        | some names => Sorting.texts names
        | none => pure none) with
      | none => pure 2
      | some texts => do
        let linesOf (text : String) : List String :=
          match (text.splitOn mark).reverse with
          | "" :: rest => rest.reverse
          | rest => rest.reverse
        let lists := texts.map fun t => (linesOf t).map rule.entry
        if checking then
          finish (if Sorting.isSorted rule unique lists.flatten then 0 else 1)
        else do
          let size := (lists.map List.length).foldl (· + ·) 0
          let es :=
            if has chosen ["m", "merge"] then
              lists.foldl (fun all es => Sorting.mergeTwo rule (size + 1) all es []) []
            else lists.flatten.mergeSort fun a b => rule.compare a b != .gt
          let es := if unique then Sorting.dropEqual rule es else es
          let out := String.join (es.map (·.line ++ mark))
          match valueOf? chosen ["o", "output"] with
          | some name =>
            match ← openFile name .writing with
            | .error _ => pure 2
            | .ok d => do
              let _ ← write d out
              finishWith 2 0
          | none => do
            say out
            finishWith 2 0

end StreamSupervisor.Tool
