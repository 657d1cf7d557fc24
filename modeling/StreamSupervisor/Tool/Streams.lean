import StreamSupervisor.Text.Regex
import StreamSupervisor.Tool.Intake

/-! # Streams

Programs that pass on what they read: whole, in part, in another order, or with numbers.
-/

namespace StreamSupervisor.Tool

open Machine

/-! ## Whole streams -/

/-- What is shown of what is read. -/
structure Concatenation where
  /-- Whether lines are numbered, and whether empty ones are left out. -/
  numbers : Bool
  onlyFilled : Bool
  ends : Bool
  tabs : Bool
  /-- Whether characters without a shape are spelled out. -/
  spells : Bool
  squeezes : Bool

/-- How a character without a shape is spelled. -/
def spelled (tabs : Bool) (c : Char) : List Char :=
  let v := c.toNat
  let low (v : Nat) : List Char :=
    if v < 32 then ['^', Char.ofNat (v + 64)]
    else if v = 127 then ['^', '?']
    else [Char.ofNat v]
  if c == '\t' then (if tabs then ['^', 'I'] else [c])
  else if c == '\n' then [c]
  else if v < 128 then low v
  else 'M' :: '-' :: low (v - 128)

/-- A line in the way it is shown. -/
def Concatenation.shown (k : Concatenation) (line : String) : String :=
  let ended := line.endsWith "\n"
  let body := (withoutMark '\n' line).toList
  let returns := k.ends && ended && body.getLast? == some '\r'
  let body := if returns && !k.spells then body.dropLast else body
  let body :=
    if k.spells then body.flatMap (spelled k.tabs)
    else if k.tabs then body.flatMap fun c => if c == '\t' then ['^', 'I'] else [c]
    else body
  String.ofList body ++ (if returns && !k.spells then "^M" else "") ++
    (if ended then (if k.ends then "$\n" else "\n") else "")

/-- How far the showing has come: the number of the last line, whether the last line was
empty, and whether it has not ended yet. -/
structure Concatenated where
  count : Nat := 0
  blank : Bool := false
  within : Bool := false

def Concatenation.step (k : Concatenation) (s : Concatenated) (line : String) :
    Chore Concatenated := do
  let isBlank := !s.within && line == "\n"
  if k.squeezes && isBlank && s.blank then pure s
  else do
    let numbered := !s.within && (if k.onlyFilled then !isBlank else k.numbers)
    let count := if numbered then s.count + 1 else s.count
    let front :=
      if numbered then
        let ds := toString count
        String.ofList (List.replicate (6 - ds.length) ' ') ++ ds ++ "\t"
      else ""
    say (front ++ k.shown line)
    pure { count := count, blank := isBlank, within := !line.endsWith "\n" }

/-- Whether an input is the file that is written to, and there is something in it. -/
def isOwnOutput (d : Nat) : Chore Bool := do
  match ← Asking.ask (.inspectOpen d), ← Asking.ask (.inspectOpen 1) with
  | .info i, .info o =>
    pure (o.kind = .plain && decide (i.node = o.node) && decide (0 < i.size))
  | _, _ => pure false

def concatenate (args : List String) : Chore Nat :=
  withOptions { letters := "benstuvAET", long := [("show-all", .none), ("number", .none),
    ("number-nonblank", .none), ("show-ends", .none), ("squeeze-blank", .none),
    ("show-tabs", .none), ("show-nonprinting", .none)] } 1 args fun chosen names => do
    let all := has chosen ["A", "show-all"]
    let k : Concatenation := {
      numbers := has chosen ["n", "number"]
      onlyFilled := has chosen ["b", "number-nonblank"]
      ends := all || has chosen ["e", "E", "show-ends"]
      tabs := all || has chosen ["t", "T", "show-tabs"]
      spells := all || has chosen ["e", "t", "v", "show-nonprinting"]
      squeezes := has chosen ["s", "squeeze-blank"] }
    let plain := !(k.numbers || k.onlyFilled || k.ends || k.tabs || k.spells || k.squeezes)
    let ((_, looped), code) ← foldInputs names 1 (({} : Concatenated), false)
      fun (s, looped) name d => do
        if ← isOwnOutput d then
          warn ("cat: " ++ name ++ ": input file is output file")
          pure (s, true)
        else if plain then
          copy d endless none
          pure (s, looped)
        else
          let s ← foldLines {} d s fun s line => do
            let s ← k.step s line
            pure (s, true)
          pure (s, looped)
    finish (if looped then 1 else code)

/-- Write a text without end. -/
def repeatText (text : String) : Nat → Chore Nat
  | 0 => finish 1
  | n + 1 => do
    match ← write 1 text with
    | .ok () => repeatText text n
    | .error _ => pure 1

def yes (args : List String) : Chore Nat :=
  withOptions { letters := "" } 1 args fun _ words =>
    let line := (if words.isEmpty then "y" else " ".intercalate words) ++ "\n"
    let count := 4096 / line.length + 1
    repeatText (String.join (List.replicate count line)) endless

def tee (args : List String) : Chore Nat :=
  withOptions { letters := "aip", long := [("append", .none), ("ignore-interrupts", .none),
    ("output-error", .optional)] } 1 args fun chosen names => do
    let how : Opening := if has chosen ["a", "append"] then .appending else .writing
    let mut code := 0
    let mut outs : List Nat := []
    for name in names do
      match ← openFile name how with
      | .ok d => outs := outs ++ [d]
      | .error why => do
        warn (name ++ ": " ++ why.text)
        code := 1
    let targets := outs
    let rec go : Nat → Chore Unit
      | 0 => pure ()
      | n + 1 => do
        match ← Asking.ask (.read 0 blockSize) with
        | .text s =>
          if s.isEmpty then pure ()
          else do
            say s
            for d in targets do
              match ← write d s with
              | .ok () => pure ()
              | .error _ => modify fun d => { d with lost := true }
            go n
        | _ => pure ()
    go endless
    finish code

/-! ## Ends of streams -/

/-- A count with a sign before it and a unit behind it. -/
structure Count where
  sign : Option Char
  value : Nat

def multiplier? : List Char → Option Nat
  | [] => some 1
  | ['b'] => some 512
  | ['k', 'B'] | ['K', 'B'] => some 1000
  | ['k'] | ['K'] | ['K', 'i', 'B'] => some 1024
  | ['M', 'B'] => some 1000000
  | ['M'] | ['m'] | ['M', 'i', 'B'] => some 1048576
  | ['G', 'B'] => some 1000000000
  | ['G'] | ['G', 'i', 'B'] => some 1073741824
  | ['T'] => some 1099511627776
  | _ => none

def count? (s : String) : Option Count :=
  let (sign, cs) : Option Char × List Char :=
    match s.toList with
    | '-' :: rest => (some '-', rest)
    | '+' :: rest => (some '+', rest)
    | rest => (none, rest)
  let (v, n, rest) := takeDigits 10 cs 0 0
  if n = 0 then none else (multiplier? rest).map fun m => ⟨sign, v * m⟩

/-- How so many lines or bytes at an end of a stream are chosen. -/
structure Portion where
  byBytes : Bool
  count : Count
  mark : Char

/-- The first parts, or all but the last ones. -/
def Portion.front (p : Portion) (d : Nat) : Chore Unit := do
  if p.count.sign == some '-' then do
    let text ← readAll d
    let shown :=
      if p.byBytes then String.ofList (text.toList.take (text.length - p.count.value))
      else
        let (pieces, rest) := markedPieces p.mark.toString text
        let pieces := if rest.isEmpty then pieces else pieces ++ [rest]
        String.join (pieces.take (pieces.length - p.count.value))
    say shown
    let _ ← Asking.ask (.putBack d (String.ofList (text.toList.drop shown.length)))
  else if p.byBytes then copy d endless (some p.count.value)
  else if p.count.value = 0 then pure ()
  else
    let _ ← foldLines { mark := p.mark, block := 8192, returns := true } d p.count.value
      fun left line => do
        say line
        pure (left - 1, decide (1 < left))

/-- The last parts of a text, or all from some part on. -/
def Portion.back (p : Portion) (text : String) : String :=
  let fromStart := p.count.sign == some '+'
  if p.byBytes then
    let cs := text.toList
    String.ofList (cs.drop (if fromStart then p.count.value - 1 else cs.length - p.count.value))
  else
    let (pieces, rest) := markedPieces p.mark.toString text
    let pieces := if rest.isEmpty then pieces else pieces ++ [rest]
    String.join (pieces.drop
      (if fromStart then p.count.value - 1 else pieces.length - p.count.value))

/-- The portion that options ask for; nothing if a count is malformed. -/
def portionOf? (chosen : List Choice) : Option Portion :=
  let mark := if has chosen ["z", "zero-terminated"] then '\x00' else '\n'
  let wanted := chosen.filter fun c => ["c", "n", "bytes", "lines"].contains c.name
  let counts := wanted.map fun c => (c.name == "c" || c.name == "bytes", count? (c.value.getD ""))
  if counts.any (·.2.isNone) then none
  else
    match counts.getLast? with
    | some (byBytes, some c) => some ⟨byBytes, c, mark⟩
    | _ => some ⟨false, ⟨none, 10⟩, mark⟩

/-- Write the name of an input above it, where asked, with a line between it and what was
written before. -/
def heading (named first : Bool) (name : String) : Chore Unit := do
  if named then
    let shown := if name == "-" then "standard input" else name
    say ((if first then "" else "\n") ++ "==> " ++ shown ++ " <==\n")

/-- Whether the names of inputs are shown. -/
def showsNames (chosen : List Choice) (names : List String) : Bool :=
  let told := chosen.filter fun c =>
    ["q", "quiet", "silent", "v", "verbose"].contains c.name
  match told.getLast? with
  | some c => c.name == "v" || c.name == "verbose"
  | none => decide (1 < names.length)

/-- Old-fashioned counts are written right behind the dash, with letters behind them: units
of bytes, or options without values. -/
def oldCount (args : List String) : List String :=
  match args with
  | a :: rest =>
    match a.toList with
    | '-' :: c :: cs =>
      if isDigit c then
        let ds := (c :: cs).takeWhile isDigit
        let letters := (c :: cs).dropWhile isDigit
        let count := String.ofList ds
        let flags := letters.filter fun l => "qvz".toList.contains l
        let others := letters.filter fun l => !"qvzl".toList.contains l
        let flags := if flags.isEmpty then [] else [String.ofList ('-' :: flags)]
        match others with
        | [] => "-n" :: count :: flags ++ rest
        | ['c'] => "-c" :: count :: flags ++ rest
        | [unit] =>
          if unit == 'b' || unit == 'k' || unit == 'm' then
            "-c" :: (count ++ unit.toString) :: flags ++ rest
          else "-n" :: dropChars 1 a :: rest
        | _ => "-n" :: dropChars 1 a :: rest
      else args
    | _ => args
  | [] => []

def head (args : List String) : Chore Nat :=
  withOptions { letters := "c:n:qvz0123456789", long := [("bytes", .required),
    ("lines", .required), ("quiet", .none), ("silent", .none), ("verbose", .none),
    ("zero-terminated", .none)] } 1 (oldCount args) fun chosen names => do
    match portionOf? chosen with
    | none => do
      warn "head: invalid number"
      pure 1
    | some p => do
      let named := showsNames chosen names
      let (_, code) ← foldInputs names 1 true fun first name d => do
        heading named first name
        p.front d
        pure false
      finish code

/-- Copy whatever is added to an input, for ever. -/
def follow (d : Nat) (pid : Option Int) : Nat → Chore Unit
  | 0 => pure ()
  | n + 1 => do
    copy d endless none
    let gone ← match pid with
      | none => pure false
      | some p =>
        match ← Asking.ask (.send p 0) with
        | .refused .noProcess => pure true
        | _ => pure false
    if gone then pure ()
    else do
      let _ ← Asking.ask (.sleep (some 1000000))
      follow d pid n

/-- An old-fashioned count at the front: digits behind a sign, then the unit, then whether
to go on. -/
def oldPortion (a : String) : Option (List String) :=
  match a.toList with
  | sign :: cs =>
    let (ds, rest) := (cs.takeWhile isDigit, cs.dropWhile isDigit)
    let (unit, rest) := match rest with
      | 'b' :: more => ("b", more)
      | 'c' :: more => ("c", more)
      | 'l' :: more => ("l", more)
      | rest => ("l", rest)
    let follows := rest == ['f']
    let isBare := sign == '-' && (cs.isEmpty || cs == ['c'])
    if sign != '+' && sign != '-' || isBare || !(rest.isEmpty || follows) then none
    else
      let number := if ds.isEmpty then "10" else String.ofList ds
      let front := if sign == '+' then "+" else ""
      let count := if unit == "l" then ["-n", front ++ number]
        else ["-c", front ++ number ++ (if unit == "b" then "b" else "")]
      some (count ++ if follows then ["-f"] else [])
  | [] => none

/-- Arguments among which an old-fashioned count is spelled as options. -/
def withOldPortion (args : List String) : List String :=
  match args with
  | [a] => (oldPortion a).getD args
  | [a, b] =>
    if b.startsWith "-" && b != "-" && b != "--" then args
    else ((oldPortion a).map (· ++ [b])).getD args
  | [a, "--", b] => ((oldPortion a).map (· ++ ["--", b])).getD args
  | _ => args

def tail (args : List String) : Chore Nat :=
  withOptions { letters := "c:n:fFqs:vz", long := [("bytes", .required),
    ("lines", .required), ("follow", .optional), ("quiet", .none), ("silent", .none),
    ("verbose", .none), ("zero-terminated", .none), ("retry", .none), ("pid", .required),
    ("sleep-interval", .required), ("max-unchanged-stats", .required)], checks := [
      ⟨["pid", "max-unchanged-stats"], 1, isDigits⟩,
      ⟨["s", "sleep-interval"], 1, fun v => (Duration.ofText? v).isSome⟩,
      .words ["follow"] ["descriptor", "name"]] } 1 (withOldPortion args)
    fun chosen names => do
    match portionOf? chosen with
    | none => do
      warn "tail: invalid number"
      pure 1
    | some p => do
      let following := has chosen ["f", "F", "follow"]
      let named := showsNames chosen names
      let mut code := 0
      let mut first := true
      let mut opened : List Nat := []
      for name in orStandard names do
        match ← openInput name with
        | none => code := 1
        | some d => do
          heading named first name
          first := false
          let text ← readAll d
          say (p.back text)
          opened := opened ++ [d]
      let isPipe ← match names.isEmpty, ← Asking.ask (.inspectOpen 0) with
        | true, .info i => pure (decide (i.kind = .queue))
        | _, _ => pure false
      let retries := has chosen ["F", "retry"]
      if following && !isPipe && (!opened.isEmpty || retries) then do
        match opened with
        | d :: _ => follow d ((valueOf? chosen ["pid"]).bind (Machine.number? 10)) endless
        | [] => do
          let _ ← Asking.ask (.sleep none)
        finish code
      else finish code

/-! ## Other orders -/

/-- The records of a text, last first, that are set apart by marks; a mark belongs to the
record before it, or to the one behind it. Marks are looked for from the end on, each in what
stands before the last one, and told by their lengths. -/
def recordsFromEnd (before : Bool) (markAt : Nat → List Char → Option Nat)
    (text : List Char) : List (List Char) :=
  let rec go : Nat → Nat → Nat → Bool → List (List Char)
    | 0, past, _, _ => [text.take past]
    | place + 1, past, limit, first =>
      match markAt place ((text.take limit).drop place) with
      | none => go place past limit first
      | some n =>
        let cut := if before then place else place + n
        let record := (text.take past).drop cut
        let rest := go place cut place false
        if !before && first && record.isEmpty then rest else record :: rest
  go text.length text.length text.length true

/-- Whether a text begins with a mark, which is then told by its length. -/
def plainMark (mark : List Char) (text : List Char) : Option Nat :=
  if mark.isPrefixOf text then some mark.length else none

/-- A pattern in which marks of repetition stand bare, in the usual form. -/
def withBareMarks : List Char → List Char
  | '\\' :: c :: rest =>
    if c == '+' || c == '?' then c :: withBareMarks rest else '\\' :: c :: withBareMarks rest
  | c :: rest =>
    if c == '+' || c == '?' then '\\' :: c :: withBareMarks rest else c :: withBareMarks rest
  | [] => []

def reverseLines (args : List String) : Chore Nat :=
  withOptions { letters := "brs:", long := [("before", .none), ("regex", .none),
    ("separator", .required)] } 1 args fun chosen names => do
    let mark := (valueOf? chosen ["s", "separator"]).getD "\n"
    let isPattern := has chosen ["r", "regex"]
    let before := has chosen ["b", "before"]
    let wrong : Chore Nat := do
      warn "tac: invalid separator"
      pure 1
    let usual (names : List String) (order : String → String) : Chore Nat := do
      let code ← eachInput names 1 fun _ d => do
        let text ← readAll d
        say (order text)
      finish code
    let written (markAt : Nat → List Char → Option Nat) (text : String) : String :=
      String.ofList (recordsFromEnd before markAt text.toList).flatten
    if isPattern then
      match Regex.read false (String.ofList (withBareMarks mark.toList)) true with
      | .error _ => wrong
      | .ok (r, _) =>
        if mark.isEmpty then wrong
        else usual names fun text =>
          let cs := text.toList.toArray
          written (fun place rest =>
            let at_ : Regex.At := {
              before := if place = 0 then none else cs[place - 1]?, rest := rest, place := place }
            (Regex.matchAt? false r at_).map fun x => x.place - place) text
    else if mark == "\n" && !before then
      usual names fun text =>
        let (pieces, rest) := markedPieces mark text
        String.join (rest :: pieces.reverse)
    else
      let mark := if mark.isEmpty then "\x00" else mark
      usual names (written fun _ rest => plainMark mark.toList rest)

def reverseText (s : String) : String := String.ofList s.toList.reverse

def reverseCharacters (args : List String) : Chore Nat :=
  withOptions { letters := "hV0", long := [("zero", .none)] } 1 args fun chosen names => do
    if has chosen ["h", "V"] then pure 0
    else do
      let mark := if has chosen ["0", "zero"] then '\x00' else '\n'
      let code ← eachInput names 1 fun _ d =>
        eachLine { mark := mark } d fun line =>
          say (reverseText (withoutMark mark line) ++
            (if line.endsWith mark.toString then mark.toString else ""))
      finish code

/-! ## Numbered lines -/

/-- Which lines of a part of a page are numbered. -/
inductive Numbered where
  | all
  | filled
  | none
  | matching (pattern : Regex)

def Numbered.ofText? (s : String) : Option Numbered :=
  match s.toList with
  | ['a'] => some .all
  | ['t'] => some .filled
  | ['n'] => some .none
  | 'p' :: rest =>
    match Regex.read false (String.ofList rest) with
    | .ok (r, _) => some (.matching r)
    | .error _ => Option.none
  | _ => Option.none

/-- How lines are numbered. -/
structure Numbering where
  header : Numbered := .none
  body : Numbered := .filled
  footer : Numbered := .none
  /-- With what lines are begun that mark the parts of a page. -/
  mark : String := "\\:"
  start : Int := 1
  step : Int := 1
  /-- How many empty lines count as one. -/
  joined : Nat := 1
  format : String := "rn"
  gap : String := "\t"
  width : Nat := 6
  /-- Whether each page begins anew. -/
  restarts : Bool := true

/-- A number in so many columns: at the left, at the right, or filled up with zeros. -/
def Numbering.text (k : Numbering) (n : Int) : String :=
  let ds := toString n.natAbs
  let sign := if n < 0 then "-" else ""
  let fill (c : Char) : String :=
    String.ofList (List.replicate (k.width - ds.length - sign.length) c)
  match k.format with
  | "ln" => sign ++ ds ++ fill ' '
  | "rz" => sign ++ fill '0' ++ ds
  | _ => fill ' ' ++ sign ++ ds

/-- Where the numbering stands: the next number, the present part and the empty lines. -/
structure NumberingState where
  next : Int
  part : Numbered
  empties : Nat := 0

/-- The part of a page that a line begins. -/
def Numbering.partOf? (k : Numbering) (line : String) : Option Numbered :=
  if k.mark.isEmpty then none
  else if line == k.mark ++ k.mark ++ k.mark then some k.header
  else if line == k.mark ++ k.mark then some k.body
  else if line == k.mark then some k.footer
  else none

def Numbering.line (k : Numbering) (s : NumberingState) (line : String) :
    Chore NumberingState := do
  let numbered : Chore NumberingState := do
    say (k.text s.next ++ k.gap ++ line ++ "\n")
    pure { s with next := s.next + k.step, empties := 0 }
  let plain : Chore NumberingState := do
    say (String.ofList (List.replicate (k.width + k.gap.length) ' ') ++ line ++ "\n")
    pure s
  match k.partOf? line with
  | some part => do
    say "\n"
    pure { s with part := part, next := if k.restarts then k.start else s.next }
  | none =>
    match s.part with
    | .none => plain
    | .filled => if line.isEmpty then plain else numbered
    | .matching r => if Regex.isIn false r line then numbered else plain
    | .all =>
      if 1 < k.joined && line.isEmpty && s.empties + 1 != k.joined then do
        let s ← plain
        pure { s with empties := s.empties + 1 }
      else numbered

def numberLines (args : List String) : Chore Nat :=
  let isStyle (v : String) : Bool := (Numbered.ofText? v).isSome
  let isNumber (v : String) : Bool := (Machine.number? 10 v).isSome
  let isCount (v : String) : Bool := (Machine.number? 10 v).any (0 < ·)
  withOptions { letters := "b:d:f:h:i:l:n:ps:v:w:", long := [("body-numbering", .required),
    ("section-delimiter", .required), ("footer-numbering", .required),
    ("header-numbering", .required), ("line-increment", .required),
    ("join-blank-lines", .required), ("number-format", .required), ("no-renumber", .none),
    ("number-separator", .required), ("starting-line-number", .required),
    ("number-width", .required)], checks := [
      ⟨["b", "f", "h", "body-numbering", "footer-numbering", "header-numbering"], 1, isStyle⟩,
      ⟨["i", "v", "line-increment", "starting-line-number"], 1, isNumber⟩,
      ⟨["l", "w", "join-blank-lines", "number-width"], 1, isCount⟩,
      ⟨["n", "number-format"], 1, fun v => ["ln", "rn", "rz"].contains v⟩] } 1 args
    fun chosen names => do
    let number (ns : List String) (d : Int) : Int :=
      ((valueOf? chosen ns).bind (Machine.number? 10)).getD d
    let style (ns : List String) (d : Numbered) : Numbered :=
      ((valueOf? chosen ns).bind Numbered.ofText?).getD d
    let mark := (valueOf? chosen ["d", "section-delimiter"]).getD "\\:"
    let k : Numbering := {
      header := style ["h", "header-numbering"] .none
      body := style ["b", "body-numbering"] .filled
      footer := style ["f", "footer-numbering"] .none
      mark := if mark.length = 1 then mark ++ ":" else mark
      start := number ["v", "starting-line-number"] 1
      step := number ["i", "line-increment"] 1
      joined := (number ["l", "join-blank-lines"] 1).toNat
      format := (valueOf? chosen ["n", "number-format"]).getD "rn"
      gap := (valueOf? chosen ["s", "number-separator"]).getD "\t"
      width := (number ["w", "number-width"] 6).toNat
      restarts := !has chosen ["p", "no-renumber"] }
    let (_, code) ← foldInputs names 1 { next := k.start, part := k.body : NumberingState }
      fun s _ d => foldLines {} d s fun s line => do
        let s ← k.line s (chomp line)
        pure (s, true)
    finish code

end StreamSupervisor.Tool
