import StreamSupervisor.Tool.Intake

/-! # Layout

Programs that break, fill or align lines: folding, filling paragraphs, and changing tabs to
blanks and back.
-/

namespace StreamSupervisor.Tool

open Machine

/-- Counts that are written right behind a dash, under the letter that they stand for. -/
def countsAs (letter : String) (args : List String) : List String :=
  args.map fun a =>
    if a.startsWith "-" && isDigits (dropChars 1 a) then letter ++ dropChars 1 a else a

/-! ## Folding -/

/-- The place after a character; the flag says whether each character takes one column. -/
def placeAfter (plain : Bool) (place : Nat) (c : Char) : Nat :=
  if plain then place + 1
  else if c == '\x08' then place - 1
  else if c == '\r' then 0
  else if c == '\t' then place + 8 - place % 8
  else place + 1

/-- Break a line into pieces that reach no further than so much, behind blanks where asked.
The piece at hand is kept last character first. -/
def foldLine (width : Nat) (plain atBlanks : Bool) :
    Nat → List Char → List Char → Nat → List (List Char)
  | 0, rest, piece, _ => [piece.reverse ++ rest]
  | _ + 1, [], piece, _ => [piece.reverse]
  | n + 1, c :: rest, piece, place =>
    let next := placeAfter plain place c
    if next ≤ width || piece.isEmpty then
      foldLine width plain atBlanks n rest (c :: piece) next
    else
      let isGap (c : Char) : Bool := c == ' ' || c == '\t'
      let after := piece.takeWhile fun c => !isGap c
      let front := piece.drop after.length
      if atBlanks && !front.isEmpty then
        let place := after.reverse.foldl (placeAfter plain) 0
        front.reverse :: foldLine width plain atBlanks n (c :: rest) after place
      else piece.reverse :: foldLine width plain atBlanks n (c :: rest) [] 0

def wrapLines (args : List String) : Chore Nat :=
  withOptions { letters := "bsw:", long := [("bytes", .none), ("spaces", .none),
    ("width", .required)], checks := [
      ⟨["w", "width"], 1, fun v => isDigits v && v.toNat? != some 0⟩] } 1 (countsAs "-w" args)
    fun chosen names => do
    let width := ((valueOf? chosen ["w", "width"]).bind String.toNat?).getD 80
    let atBlanks := has chosen ["s", "spaces"]
    let code ← eachInput names 1 fun _ d =>
      eachLine {} d fun line => do
        let body := (chomp line).toList
        let pieces := foldLine width (has chosen ["b", "bytes"]) atBlanks
          (2 * body.length + 2) body [] 0
        say ("\n".intercalate (pieces.map String.ofList) ++
          (if line.endsWith "\n" then "\n" else ""))
    finish code

/-! ## Filling -/

/-- A word of a paragraph, with the blanks behind it. -/
structure Word where
  text : String
  gap : Nat := 1
  /-- Whether it begins with an opening bracket or quote. -/
  opens : Bool
  /-- Whether it ends with a mark that may end a sentence. -/
  stops : Bool
  /-- Whether it ends with any mark. -/
  marked : Bool
  /-- Whether it is the last one of a sentence. -/
  final : Bool := false

def Word.ofText (cs : List Char) : Word :=
  let isMark (c : Char) : Bool :=
    33 ≤ c.toNat && c.toNat < 127 && !isLetter c && !isDigit c
  let closing := ")]\x27\"".toList
  let core := match cs.reverse with
    | c :: rest =>
      let stripped := (c :: rest).dropWhile closing.contains
      if stripped.isEmpty then cs.take 1 else stripped
    | [] => []
  { text := String.ofList cs
    opens := cs.head?.any "([\x27\x60\"".toList.contains
    stops := core.head?.any ".?!".toList.contains
    marked := cs.getLast?.any isMark }

/-- The way in which paragraphs are filled. -/
structure Filling where
  width : Nat := 75
  goal : Nat := 70
  crown : Bool := false
  tagged : Bool := false
  splitOnly : Bool := false
  uniform : Bool := false
  /-- What lines begin with that are filled, without the blanks around it, and with those
  before and behind it counted. -/
  mark : String := ""
  before : Nat := 0
  full : Nat := 0

/-- A line: how far its mark and its text are indented, and its words. -/
structure FillLine where
  markIndent : Nat
  indent : Nat
  words : List Word
  /-- The line as it is, for lines that are not filled. -/
  raw : String
  isFilled : Bool

/-- Blanks at the front, the column behind them, and the rest. -/
def leadingBlanks : Nat → List Char → Nat × List Char
  | place, ' ' :: rest => leadingBlanks (place + 1) rest
  | place, '\t' :: rest => leadingBlanks (place + 8 - place % 8) rest
  | place, rest => (place, rest)

/-- The words of a line from some column on. -/
def wordsOf (uniform : Bool) : Nat → Nat → List Char → List Word
  | 0, _, _ => []
  | n + 1, place, cs =>
    let isGap (c : Char) : Bool := isSpace c
    let text := cs.takeWhile fun c => !isGap c
    if text.isEmpty then
      /- Blanks that are neither spaces nor tabs begin a word. -/
      match cs with
      | [] => []
      | c :: rest =>
        let more := rest.takeWhile fun c => !isGap c
        wordAt uniform n place (c :: more) (rest.drop more.length)
    else wordAt uniform n place text (cs.drop text.length)
where
  wordAt (uniform : Bool) (n place : Nat) (text rest : List Char) : List Word :=
    let w := Word.ofText text
    let start := place + text.length
    let (stop, after) := leadingBlanks start rest
    let gap := stop - start
    let final := after.isEmpty && w.stops || w.stops && 1 < gap
    let gap := if after.isEmpty || uniform then (if final then 2 else 1) else gap
    { w with gap := gap, final := final } :: wordsOf uniform n stop after

/-- Read a line: it is filled if it begins with the mark and there is more behind it. -/
def Filling.line (f : Filling) (line : String) : FillLine :=
  let (place, rest) := leadingBlanks 0 line.toList
  let other (markIndent indent : Nat) : FillLine :=
    ⟨markIndent, indent, [], line, false⟩
  let (markIndent, indent, rest, matched) : Nat × Nat × List Char × Bool :=
    if f.mark.isEmpty then (Nat.min f.before place, place, rest, true)
    else if f.mark.toList.isPrefixOf rest then
      let (stop, after) := leadingBlanks (place + f.mark.length) (rest.drop f.mark.length)
      (place, stop, after, true)
    else (place, place, rest, false)
  if !matched || rest.isEmpty || markIndent < f.before || indent < markIndent + f.full then
    other markIndent indent
  else ⟨markIndent, indent, wordsOf f.uniform (rest.length + 1) indent rest, line, true⟩

/-- A word with the best way to go on from it: the cost, how many words its line has, and how
long that line is. -/
structure Node where
  word : Word
  cost : Int := 0
  count : Nat := 0
  length : Int := 0

def square (n : Int) : Int := n * n

/-- What it costs to end a line before some words, so many columns long. -/
def lineCost (goal : Int) (len : Int) (rest : List Node) : Int :=
  match rest with
  | [] => 0
  | next :: others =>
    let short := square ((goal - len) * 10)
    if others.length + 1 ≤ next.count then short
    else short + square ((len - next.length) * 10) / 2

/-- What it costs to begin a line with a word, given the two words before it. -/
def startCost (before : Option Word) (twoBefore : Option Word) (w : Word) : Int :=
  let base := square 70
  let base := match before with
    | none => base
    | some p =>
      if p.stops then (if p.final then base - square 50 else base + square 600)
      else if p.marked then base - square 40
      else if twoBefore.any (·.final) then base + square 200 / ((p.text.length : Int) + 2)
      else base
  if w.opens then base - square 40
  else if w.final then base + square 150 / ((w.text.length : Int) + 2)
  else base

/-- The best end of a line that begins with a word: the cost, the count of its words and its
length. -/
def bestEnd (f : Filling) (indent : Int) (w : Word) (rest : List Node) : Int × Nat × Int :=
  let rec go : List Node → Word → Nat → Int → Option (Int × Nat × Int) → Int × Nat × Int
    | rest, last, count, len, best =>
      let cost := lineCost f.goal len rest + (rest.head?.map (·.cost)).getD 0
      let best := match best with
        | some (c, k, l) => if cost < c then (cost, count, len) else (c, k, l)
        | none => (cost, count, len)
      match rest with
      | [] => best
      | next :: others =>
        let len := len + last.gap + next.word.text.length
        if len < f.width then go others next.word (count + 1) len (some best) else best
  go rest w 1 (indent + w.text.length) none

/-- The nodes of a paragraph, from its last word on. -/
def Filling.nodes (f : Filling) (first other : Nat) :
    List Word → Option Word → Option Word → List Node
  | [], _, _ => []
  | w :: ws, before, twoBefore =>
    let rest := f.nodes first other ws (some w) before
    let indent : Int := if before.isNone then first else other
    let (cost, count, len) := bestEnd f indent w rest
    { word := w, cost := cost + startCost before twoBefore w, count := count, length := len } ::
      rest

/-- Blanks up to a column, with tabs where the input had some. -/
def blanksTo (tabs : Bool) (place target : Nat) : String :=
  let stop := target / 8 * 8
  if tabs && place + 1 < stop then
    let count := stop / 8 - place / 8
    String.ofList (List.replicate count '\t' ++ List.replicate (target - stop) ' ')
  else String.ofList (List.replicate (target - place) ' ')

/-- Write a paragraph whose lines are indented so far. -/
def Filling.writeLines (f : Filling) (tabs : Bool) (markIndent : Nat) :
    Nat → Nat → Nat → List Node → String
  | 0, _, _, _ => ""
  | _, _, _, [] => ""
  | n + 1, indent, other, node :: rest =>
    let line := (node :: rest).take node.count
    let front := blanksTo tabs 0 markIndent ++ f.mark
    let start := markIndent + f.mark.length
    let front := front ++ blanksTo tabs start indent
    let (text, _) := line.zipIdx.foldl (fun (text, place) (x, i) =>
      let text := text ++ x.word.text
      let place := place + x.word.text.length
      if i + 1 < line.length then
        (text ++ blanksTo tabs place (place + x.word.gap), place + x.word.gap)
      else (text, place)) (front, Nat.max start indent)
    text ++ "\n" ++ f.writeLines tabs markIndent n other other ((node :: rest).drop node.count)

/-- How far the lines behind the first one of a paragraph are indented, and how many lines
belong to it. -/
def Filling.extent (f : Filling) (first : FillLine) (rest : List FillLine) (lastOther : Nat) :
    Nat × Nat :=
  let same (l : FillLine) : Bool := l.isFilled && l.markIndent == first.markIndent
  let run (indent : Nat) : Nat := (rest.takeWhile fun l => same l && l.indent == indent).length
  let next := rest.head?.filter same
  if f.splitOnly then (first.indent, 0)
  else if f.crown then
    match next with
    | some l => (l.indent, run l.indent)
    | none => (first.indent, 0)
  else if f.tagged then
    match next with
    | some l =>
      if l.indent != first.indent then (l.indent, run l.indent)
      else if lastOther == first.indent then (if first.indent = 0 then 3 else 0, 0)
      else (lastOther, 0)
    | none =>
      if lastOther == first.indent then (if first.indent = 0 then 3 else 0, 0) else (lastOther, 0)
  else (first.indent, run first.indent)

/-- The last word of a paragraph ends a sentence. -/
def endSentence : List Word → List Word
  | [] => []
  | [w] => [{ w with stops := true, final := true }]
  | w :: ws => w :: endSentence ws

/-- Fill the lines of an input. -/
def Filling.text (f : Filling) (tabs : Bool) : Nat → List FillLine → Nat → String
  | 0, _, _ => ""
  | _, [], _ => ""
  | n + 1, l :: rest, other =>
    if !l.isFilled then l.raw ++ "\n" ++ f.text tabs n rest other
    else
      let (other, count) := f.extent l rest other
      let words := endSentence ((l :: rest.take count).flatMap (·.words))
      let nodes := f.nodes l.indent other words none none
      f.writeLines tabs l.markIndent (nodes.length + 1) l.indent other nodes ++
        f.text tabs n (rest.drop count) other

/-- A line that is not filled, as it is shown: blanks at its end are kept, those at its front
are those that its column takes. -/
def Filling.rawText (f : Filling) (tabs : Bool) (line : String) : String :=
  let (place, rest) := leadingBlanks 0 line.toList
  if !f.mark.isEmpty && f.mark.toList.isPrefixOf rest then
    let (stop, after) := leadingBlanks (place + f.mark.length) (rest.drop f.mark.length)
    let front := blanksTo tabs 0 place ++ f.mark
    if after.isEmpty then front
    else front ++ blanksTo tabs (place + f.mark.length) stop ++ String.ofList after
  else if rest.isEmpty then ""
  else blanksTo tabs 0 place ++ String.ofList rest

def formatParagraphs (args : List String) : Chore Nat :=
  let args := match args with
    | a :: rest => countsAs "-w" [a] ++ rest
    | [] => []
  let isWidth (v : String) : Bool := isDigits v && v.toNat?.any (· ≤ 2500)
  withOptions { letters := "cstuw:p:g:0123456789", long := [("crown-margin", .none),
    ("prefix", .required), ("split-only", .none), ("tagged-paragraph", .none),
    ("uniform-spacing", .none), ("width", .required), ("goal", .required)], checks := [
      ⟨["w", "g", "width", "goal"], 1, isWidth⟩] } 1 args
    fun chosen names => do
    let number (ns : List String) : Option Nat := (valueOf? chosen ns).bind String.toNat?
    let width? := number ["w", "width"]
    let goal? := number ["g", "goal"]
    let most := width?.getD 75
    if (chosen.any fun c => isDigits c.name) || goal?.any fun g => decide (most < g) then
      warn "fmt: invalid width"
      return 1
    let (width, goal) : Nat × Nat := match goal?, width? with
      | some g, some w => (w, g)
      | some g, none => (g + 10, g)
      | none, _ => (most, most * 187 / 200)
    let given := ((valueOf? chosen ["p", "prefix"]).getD "").toList
    let before := (given.takeWhile (· == ' ')).length
    let full := given.drop before
    let mark := (full.reverse.dropWhile (· == ' ')).reverse
    let f : Filling := {
      width := width, goal := goal
      crown := has chosen ["c", "crown-margin"]
      tagged := has chosen ["t", "tagged-paragraph"]
      splitOnly := has chosen ["s", "split-only"]
      uniform := has chosen ["u", "uniform-spacing"]
      mark := String.ofList mark
      before := before
      full := full.length }
    let code ← eachInput names 1 fun _ d => do
      let text ← readAll d
      let tabs := text.contains '\t'
      let ls := (lines text).map f.line
      let ls := ls.map fun l => { l with raw := f.rawText tabs l.raw }
      say (f.text tabs (ls.length + 1) ls 0)
    finish code

/-! ## Tabs -/

/-- Where tabs lead to. -/
structure TabStops where
  places : List Nat := []
  /-- Behind the last place: multiples of a number, or steps of a number. -/
  multiples : Option Nat := none
  steps : Option Nat := none

/-- The places in a list that are set apart by commas and blanks; the last number may have a
mark in front. -/
def TabStops.ofText? (v : String) : Option TabStops :=
  let items := ((v.split fun c => c == ',' || c == ' ' || c == '\t').toStringList).filter
    (!·.isEmpty)
  let plain := items.filter fun i => !(i.startsWith "/" || i.startsWith "+")
  let marked := items.filter fun i => i.startsWith "/" || i.startsWith "+"
  let numbers := plain.mapM fun i => if isDigits i then i.toNat? else none
  let last := (marked.head?.map (dropChars 1)).bind fun i =>
    if isDigits i then i.toNat? else none
  match numbers with
  | none => none
  | some ns =>
    let grows := ((0 :: ns).zip ns).all fun (a, b) => decide (a < b)
    if !grows || 1 < marked.length || marked.length = 1 && last.isNone ||
        (marked.head?.any fun m => some m != items.getLast?) then none
    else
      let last := last.filter (0 < ·)
      if marked.head?.any (·.startsWith "/") then some ⟨ns, last, none⟩
      else some ⟨ns, none, last⟩

/-- The stop behind a place; nothing if there is none left. -/
def TabStops.next? (t : TabStops) (place : Nat) : Option Nat :=
  let multiple (n : Nat) : Option Nat := some (place + n - place % n)
  match t.places, t.multiples, t.steps with
  | [], none, none => multiple 8
  | [], some n, _ => multiple n
  | [], none, some n => multiple n
  | [n], none, none => multiple n
  | ps, m, s =>
    match ps.find? fun p => decide (place < p) with
    | some p => some p
    | none =>
      match m, s with
      | some n, _ => multiple n
      | none, some n => some (place + n - (place - ps.getLastD 0) % n)
      | none, none => none

/-- Replace tabs by blanks. -/
def expandLine (t : TabStops) (onlyFirst : Bool) : List Char → Nat → Bool → List Char
  | [], _, _ => []
  | c :: cs, place, active =>
    let active' := active && (!onlyFirst || c == ' ' || c == '\t')
    if !active then c :: expandLine t onlyFirst cs place false
    else if c == '\t' then
      let stop := (t.next? place).getD (place + 1)
      List.replicate (stop - place) ' ' ++ expandLine t onlyFirst cs stop active'
    else if c == '\x08' then c :: expandLine t onlyFirst cs (place - 1) active'
    else c :: expandLine t onlyFirst cs (place + 1) active'

/-- The tab stops that options name; nothing if they are malformed. -/
def tabStopsOf? (chosen : List Choice) : Option TabStops :=
  let lists := (chosen.filter fun c => c.name == "t" || c.name == "tabs").filterMap (·.value)
  TabStops.ofText? (",".intercalate lists)

/-- Old-fashioned tab stops are written right behind the dash. -/
def oldTabStops (args : List String) : List String :=
  args.map fun a =>
    match a.toList with
    | '-' :: c :: rest =>
      if isDigit c && rest.all fun d => isDigit d || d == ',' then "-t" ++ dropChars 1 a else a
    | _ => a

def expandTabs (args : List String) : Chore Nat :=
  withOptions { letters := "it:", long := [("initial", .none), ("tabs", .required)] } 1
    (oldTabStops args) fun chosen names => do
    match tabStopsOf? chosen with
    | none => do
      warn "expand: tab size contains invalid character(s)"
      pure 1
    | some t => do
      let code ← eachInput names 1 fun _ d =>
        eachLine {} d fun line =>
          say (String.ofList (expandLine t (has chosen ["i", "initial"]) line.toList 0 true))
      finish code

/-- How far the replacing of blanks by tabs has come in a line. -/
structure Unexpanding where
  active : Bool := true
  place : Nat := 0
  /-- Whether a single blank stands right before a stop. -/
  oneBefore : Bool := false
  afterBlank : Bool := true
  /-- The blanks that may yet become tabs, last first. -/
  pending : List Char := []

/-- The blanks that were waiting; the first of several may lead to a stop by itself. -/
def Unexpanding.waiting (s : Unexpanding) : List Char :=
  match s.pending.reverse with
  | p :: q :: rest => (if s.oneBefore then '\t' else p) :: q :: rest
  | l => l

/-- Replace blanks that lead to a stop by tabs. -/
def unexpandLine (t : TabStops) (whole : Bool) : List Char → Unexpanding → List Char
  | [], s => s.waiting
  | c :: cs, s =>
    /- Write the blanks that were waiting, and the character behind them. -/
    let put (s : Unexpanding) (c : Char) (blank : Bool) : List Char :=
      let oneBefore := if s.pending.isEmpty then s.oneBefore else false
      s.waiting ++ c :: unexpandLine t whole cs
        { s with pending := [], oneBefore := oneBefore, afterBlank := blank
                 active := s.active && (whole || blank) }
    /- Drop the waiting blanks for a tab, but for one right before the last stop. -/
    let tabbed (s : Unexpanding) : Unexpanding :=
      { s with pending := if s.oneBefore then ['\t'] else [] }
    if !s.active then c :: unexpandLine t whole cs s
    else if c == ' ' || c == '\t' then
      match t.next? s.place with
      | none => put { s with active := false } c true
      | some stop =>
        if c == '\t' then put (tabbed { s with place := stop }) '\t' true
        else
          let s := { s with place := s.place + 1 }
          if s.afterBlank && s.place == stop then put (tabbed s) '\t' true
          else
            unexpandLine t whole cs
              { s with oneBefore := s.oneBefore || s.place == stop
                       pending := c :: s.pending, afterBlank := true }
    else if c == '\x08' then put { s with place := s.place - 1 } c false
    else put { s with place := s.place + 1 } c false

def unexpandTabs (args : List String) : Chore Nat :=
  withOptions { letters := "at:", long := [("all", .none), ("first-only", .none),
    ("tabs", .required)] } 1 (oldTabStops args) fun chosen names => do
    match tabStopsOf? chosen with
    | none => do
      warn "unexpand: tab size contains invalid character(s)"
      pure 1
    | some t => do
      let whole := has chosen ["a", "all", "t", "tabs"] && !has chosen ["first-only"]
      let code ← eachInput names 1 fun _ d =>
        eachLine {} d fun line => do
          let start : Unexpanding := {}
          let body := unexpandLine t whole (chomp line).toList start
          say (String.ofList body ++ (if line.endsWith "\n" then "\n" else ""))
      finish code

end StreamSupervisor.Tool
