import StreamSupervisor.Tool.Intake

/-! # Columns

Programs that choose parts of lines, or put lines of several inputs side by side: cutting,
pasting, comparing sorted lists, and joining them by a common field.
-/

namespace StreamSupervisor.Tool

open Machine

/-! ## Choosing -/

/-- Places from one to another, counted from one; nothing for no end. -/
structure Range where
  first : Nat
  last : Option Nat

def rangeOf? (s : String) : Option Range :=
  match s.splitOn "-" with
  | [a] => if isDigits a && a.toNat? != some 0 then a.toNat?.map fun n => ⟨n, some n⟩ else none
  | [a, b] =>
    if a.isEmpty && b.isEmpty then none
    else if (a.isEmpty || isDigits a) && (b.isEmpty || isDigits b) then
      let low := (a.toNat?).getD 1
      let high := b.toNat?
      if low = 0 || high.any (· < low) then none else some ⟨low, high⟩
    else none
  | _ => none

def rangesOf? (s : String) : Option (List Range) :=
  ((s.split fun c => c == ',' || c == ' ' || c == '\t').toStringList).mapM rangeOf?

def Range.holds (i : Nat) (r : Range) : Bool :=
  decide (r.first ≤ i) && r.last.all fun l => decide (i ≤ l)

/-- The ranges in order, where those that overlap are one. -/
def mergedRanges (rs : List Range) : List Range :=
  let sorted := rs.mergeSort fun a b => decide (a.first ≤ b.first)
  (sorted.foldl (fun done r =>
    match done with
    | d :: others =>
      if d.last.all fun l => decide (r.first ≤ l) then
        let last := match d.last, r.last with
          | some a, some b => some (Nat.max a b)
          | _, _ => none
        ⟨d.first, last⟩ :: others
      else r :: done
    | [] => [r]) []).reverse

/-- The ranges of the places that are in none of some merged ranges. -/
def otherRanges (rs : List Range) : List Range :=
  let rec go : Nat → List Range → List Range
    | start, [] => [⟨start, none⟩]
    | start, r :: rest =>
      let before := if start < r.first then [⟨start, some (r.first - 1)⟩] else []
      match r.last with
      | some l => before ++ go (l + 1) rest
      | none => before
  go 1 rs

/-- The items at the places of each range. -/
def chosenItems {α : Type} (rs : List Range) (items : List α) : List (List α) :=
  (rs.map fun r =>
    let rest := items.drop (r.first - 1)
    match r.last with
    | some l => rest.take (l + 1 - r.first)
    | none => rest).filter (!·.isEmpty)

def cut (args : List String) : Chore Nat :=
  withOptions { letters := "b:c:d:f:nsz", long := [("bytes", .required),
    ("characters", .required), ("delimiter", .required), ("fields", .required),
    ("complement", .none), ("only-delimited", .none), ("output-delimiter", .required),
    ("zero-terminated", .none)] } 1 args fun chosen names => do
    let lists := chosen.filter fun c =>
      ["b", "c", "f", "bytes", "characters", "fields"].contains c.name
    let delimiter := valueOf? chosen ["d", "delimiter"]
    let onlyParted := has chosen ["s", "only-delimited"]
    let wrong : Chore Nat := do
      warn "cut: wrong list"
      pure 1
    match lists with
    | [l] =>
      let byField := l.name == "f" || l.name == "fields"
      match rangesOf? (l.value.getD "") with
      | none => wrong
      | some rs =>
        if !byField && (delimiter.isSome || onlyParted) ||
            delimiter.any fun d => decide (1 < d.length) then wrong
        else do
          let rs := mergedRanges rs
          let rs := if has chosen ["complement"] then otherRanges rs else rs
          let mark := if has chosen ["z", "zero-terminated"] then '\x00' else '\n'
          let outSep := (valueOf? chosen ["output-delimiter"]).map fun d =>
            if d.isEmpty then "\x00" else d
          let sep := match delimiter with
            | some "" => "\x00"
            | some d => d
            | none => "\t"
          let fieldsOf (line : String) : Option String :=
            let fields := line.splitOn sep
            if fields.length ≤ 1 then (if onlyParted then none else some line)
            else some ((outSep.getD sep).intercalate (chosenItems rs fields).flatten)
          let code ← eachInput names 1 fun _ d => do
            if byField && sep == mark.toString then
              let text ← readAll d
              if !text.isEmpty then
                match fieldsOf (withoutMark mark text) with
                | some s => say (s ++ mark.toString)
                | none => pure ()
            else
              eachLine { mark := mark } d fun line => do
                let line := withoutMark mark line
                let out :=
                  if byField then fieldsOf line
                  else
                    let parts := (chosenItems rs line.toList).map String.ofList
                    some ((outSep.getD "").intercalate parts)
                match out with
                | some s => say (s ++ mark.toString)
                | none => pure ()
          finish code
    | _ => wrong

/-! ## Side by side -/

/-- The marks that are put between columns in turn; a mark may be nothing. -/
def columnMarks : List Char → List String
  | '\\' :: c :: rest =>
    (match c with
      | '0' => ""
      | 'b' => "\x08"
      | 'f' => "\x0c"
      | 'n' => "\n"
      | 'r' => "\r"
      | 't' => "\t"
      | 'v' => "\x0b"
      | c => c.toString) :: columnMarks rest
  | c :: rest => c.toString :: columnMarks rest
  | [] => []

/-- Put marks between items, beginning anew after the last mark. -/
def withMarks (marks : List String) (items : List String) : String :=
  let count := if marks.isEmpty then 1 else marks.length
  String.join (items.zipIdx.map fun p =>
    if p.2 = 0 then p.1 else (marks[(p.2 - 1) % count]?).getD "" ++ p.1)

/-- Take a line for each column from the source that it names; nothing where none is left. -/
def takeRow : List String → List (String × List String) →
    List (Option String) × List (String × List String)
  | [], sources => ([], sources)
  | name :: names, sources =>
    match sources.lookup name with
    | some (l :: ls) =>
      let (row, left) := takeRow names
        (sources.map fun s => if s.1 == name then (name, ls) else s)
      (some l :: row, left)
    | _ =>
      let (row, left) := takeRow names sources
      (none :: row, left)

/-- The rows of columns, until no source has a line left. -/
def rowsOf (names : List String) : Nat → List (String × List String) → List (List String)
  | 0, _ => []
  | n + 1, sources =>
    let (row, left) := takeRow names sources
    if row.all Option.isNone then [] else row.map (·.getD "") :: rowsOf names n left

def paste (args : List String) : Chore Nat :=
  withOptions { letters := "d:sz", long := [("delimiters", .required), ("serial", .none),
    ("zero-terminated", .none)], checks := [
      ⟨["d", "delimiters"], 1, fun v =>
        (v.toList.reverse.takeWhile (· == '\\')).length % 2 = 0⟩] } 1 args fun chosen names => do
    let names := orStandard names
    let mark := if has chosen ["z", "zero-terminated"] then '\x00' else '\n'
    let given := ((valueOf? chosen ["d", "delimiters"]).getD "\t").toList
    let marks := columnMarks given
    let serial := has chosen ["s", "serial"]
    let mut code := 0
    let mut sources : List (String × List String) := []
    for (name, i) in names.zipIdx do
      /- The standard input is shared by its columns, but a file is read anew for each. -/
      let key := if name == "-" then name else toString i ++ "/" ++ name
      if !(sources.any (·.1 == key)) then
        let (text, ok) ← allText [name]
        if ok then sources := sources ++ [(key, linesBy mark text)]
        else
          code := 1
          if !serial then return 1
    if serial then
      for (_, ls) in sources do say (withMarks marks ls ++ mark.toString)
    else
      let keys := names.zipIdx.map fun (name, i) =>
        if name == "-" then name else toString i ++ "/" ++ name
      let most := sources.foldl (fun n s => n + s.2.length) 1
      for row in rowsOf keys most sources do say (withMarks marks row ++ mark.toString)
    finish code

/-! ## Pairs of sorted inputs -/

/-- How strictly the order of lines is watched. -/
inductive Watch where
  | always
  | never
  /-- Only once there was a line without a partner. -/
  | unpaired
deriving DecidableEq

/-- What was noticed while two sorted inputs were read. -/
structure Noticed where
  unpaired : Bool := false
  /-- Whether the first and the second input are out of order. -/
  first : Bool := false
  second : Bool := false

/-- Look at two lines that follow one another in an input. -/
def Noticed.watch (how : Watch) (isFirst : Bool) (before : String → String → Bool)
    (previous next : String) (w : Noticed) : Noticed :=
  if how = .never || how = .unpaired && !w.unpaired || !before next previous then w
  else if isFirst then { w with first := true } else { w with second := true }

def Noticed.disorder (w : Noticed) : Bool := w.first || w.second

/-- Tell apart the lines of two sorted lists: those of the first only, of the second only,
and of both. The lists come with the lines before them. -/
def compareLists (how : Watch) : Nat → Noticed → List String → List String →
    List String → List String → List (Nat × String) → List (Nat × String) × Noticed
  | 0, w, _, _, _, _, out => (out.reverse, w)
  | n + 1, w, pastA, as, pastB, bs, out =>
    let stops := how = .always && w.disorder
    /- At the end of an input its last two lines are looked at once more. -/
    let step (isFirst : Bool) (w : Noticed) (current : String) (past : List String)
        (rest : List String) : Noticed :=
      match rest, past with
      | next :: _, _ => w.watch how isFirst bytesBefore current next
      | [], previous :: _ => w.watch how isFirst bytesBefore previous current
      | [], [] => w
    if stops then (out.reverse, w)
    else
      match as, bs with
      | [], [] => (out.reverse, w)
      | a :: as, [] =>
        let w := step true { w with unpaired := true } a pastA as
        compareLists how n w [a] as pastB [] ((0, a) :: out)
      | [], b :: bs =>
        let w := step false { w with unpaired := true } b pastB bs
        compareLists how n w pastA [] [b] bs ((1, b) :: out)
      | a :: as, b :: bs =>
        if a == b then
          let w := step false (step true w a pastA as) b pastB bs
          compareLists how n w [a] as [b] bs ((2, b) :: out)
        else if bytesBefore a b then
          let w := step true { w with unpaired := true } a pastA as
          compareLists how n w [a] as pastB (b :: bs) ((0, a) :: out)
        else
          let w := step false { w with unpaired := true } b pastB bs
          compareLists how n w pastA (a :: as) [b] bs ((1, b) :: out)

/-- How strictly options ask for the order to be watched. -/
def watchOf (chosen : List Choice) : Watch :=
  match (chosen.filter fun c => c.name == "check-order" || c.name == "nocheck-order").getLast? with
  | some c => if c.name == "check-order" then .always else .never
  | none => .unpaired

def compareSorted (args : List String) : Chore Nat :=
  withOptions { letters := "123z", long := [("check-order", .none), ("nocheck-order", .none),
    ("output-delimiter", .required), ("total", .none), ("zero-terminated", .none)] } 1 args
    fun chosen names => do
    let marks := (chosen.filter (·.name == "output-delimiter")).filterMap (·.value)
    match names with
    | [a, b] => do
      if marks.any (some · != marks.head?) then do
        warn "comm: multiple output delimiters specified"
        return 1
      let (s, okA) ← allText [a]
      if !okA then return 1
      let (t, okB) ← if a == "-" && b == "-" then pure ("", true) else allText [b]
      if !okB then return 1
      let ending := if has chosen ["z", "zero-terminated"] then '\x00' else '\n'
      let x := linesBy ending s
      let y := linesBy ending t
      let mark := match marks with
        | "" :: _ => "\x00"
        | m :: _ => m
        | [] => "\t"
      let hidden (k : Nat) : Bool := has chosen [toString (k + 1)]
      let start : Noticed := {}
      let (merged, noticed) :=
        compareLists (watchOf chosen) (x.length + y.length + 1) start [] x [] y []
      for (k, l) in merged do
        if !hidden k then
          let before := (List.range k).countP fun j => !hidden j
          say (String.join (List.replicate before mark) ++ l ++ ending.toString)
      if watchOf chosen == .always && noticed.disorder then
        warn "comm: input is not in sorted order"
        return ← finish 1
      if has chosen ["total"] then
        let counts := (List.range 3).map fun k => toString (merged.countP (·.1 == k))
        say (mark.intercalate counts ++ mark ++ "total" ++ ending.toString)
      if noticed.disorder then
        warn "comm: input is not in sorted order"
        finish 1
      else finish 0
    | _ => do
      warn "comm: two operands are needed"
      pure 1

/-! ## Joining -/

/-- A line with its fields. -/
structure Record where
  fields : Array String

/-- A field of the output: the common one, or one of an input. -/
inductive OutputField where
  | common
  | of (isFirst : Bool) (index : Nat)

/-- How two inputs are joined. -/
structure Joining where
  /-- Between which characters fields stand; nothing for blanks. -/
  separator : Option Char
  keyA : Nat
  keyB : Nat
  folded : Bool
  filler : String
  pairs : Bool
  /-- Whether lines without a partner are shown. -/
  loneA : Bool
  loneB : Bool
  output : Option (List OutputField)
  /-- How many fields the first lines have, where each line is to have as many. -/
  counts : Option (Nat × Nat)
  watch : Watch
  ending : Char

/-- The fields of a line. -/
def Joining.record (j : Joining) (line : String) : Record :=
  match j.separator with
  | some '\n' => ⟨#[line]⟩
  | some c => ⟨((line.split fun d => d == c).toStringList).toArray⟩
  | none =>
    let isGap (c : Char) : Bool := c == ' ' || c == '\t' || c == '\n'
    ⟨(((line.split isGap).toStringList).filter (!·.isEmpty)).toArray⟩

def Joining.keyText (j : Joining) (isFirst : Bool) (r : Record) : String :=
  let t := (r.fields[if isFirst then j.keyA else j.keyB]?).getD ""
  if j.folded then t.toLower else t

/-- Show a line of each input, or of one of them. -/
def Joining.shown (j : Joining) (a b : Option Record) : String :=
  let field (r : Option Record) (i : Nat) : String :=
    let t := (r.bind fun r => r.fields[i]?).getD ""
    if t.isEmpty then j.filler else t
  let sep := (j.separator.getD ' ').toString
  let common : String :=
    match a with
    | some _ => field a j.keyA
    | none => field b j.keyB
  let others (r : Option Record) (key : Nat) (count : Option Nat) : List String :=
    let n := count.getD ((r.map (·.fields.size)).getD 0)
    ((List.range n).filter (· != key)).map (field r)
  let items := match j.output with
    | some fs => fs.map fun f => match f with
      | .common => common
      | .of isFirst i => if isFirst then field a i else field b i
    | none => common :: others a j.keyA (j.counts.map (·.1)) ++ others b j.keyB (j.counts.map (·.2))
  sep.intercalate items ++ j.ending.toString

/-- Look at the lines of a run as they are read. -/
def Joining.watchRun (j : Joining) (isFirst : Bool) : List Record → Noticed → Noticed
  | a :: b :: rest, w =>
    let w := w.watch j.watch isFirst (fun x y => bytesBefore x y)
      (j.keyText isFirst a) (j.keyText isFirst b)
    j.watchRun isFirst (b :: rest) w
  | _, w => w

/-- Join two lists; the output comes last first. -/
def Joining.go (j : Joining) : Nat → Noticed → List Record → List Record → List String →
    List String × Noticed
  | 0, w, _, _, out => (out, w)
  | n + 1, w, as, bs, out =>
    if j.watch = .always && w.disorder then (out, w)
    else
      match as, bs with
      | a :: as, b :: bs =>
        let x := j.keyText true a
        let y := j.keyText false b
        if bytesBefore x y then
          let out := if j.loneA then j.shown (some a) none :: out else out
          let w := j.watchRun true (a :: as.take 1) w
          j.go n { w with unpaired := true } as (b :: bs) out
        else if bytesBefore y x then
          let out := if j.loneB then j.shown none (some b) :: out else out
          let w := j.watchRun false (b :: bs.take 1) w
          j.go n { w with unpaired := true } (a :: as) bs out
        else
          let runA := a :: as.takeWhile fun r => j.keyText true r == y
          let runB := b :: bs.takeWhile fun r => j.keyText false r == x
          let restA := as.drop (runA.length - 1)
          let restB := bs.drop (runB.length - 1)
          let w := j.watchRun true (runA ++ restA.take 1) w
          let w := j.watchRun false (runB ++ restB.take 1) w
          let made := if j.pairs then
              runA.flatMap fun a => runB.map fun b => j.shown (some a) (some b)
            else []
          if j.watch = .always && w.disorder then (out, w)
          else j.go n w restA restB (made.reverse ++ out)
      | a :: as, [] =>
        let w := if as.isEmpty then w else j.watchRun true (a :: as) w
        let shown := if j.loneA then (a :: as).map fun r => j.shown (some r) none else []
        (shown.reverse ++ out, w)
      | [], b :: bs =>
        let w := if bs.isEmpty then w else j.watchRun false (b :: bs) w
        let shown := if j.loneB then (b :: bs).map fun r => j.shown none (some r) else []
        (shown.reverse ++ out, w)
      | [], [] => (out, w)

/-- A field of the output, as it is written. -/
def outputField? (s : String) : Option OutputField :=
  let index (n : String) : Option Nat :=
    if isDigits n then n.toNat?.bind fun k => if k = 0 then none else some (k - 1) else none
  if s == "0" then some .common
  else if s.startsWith "1." then (index (dropChars 2 s)).map (.of true)
  else if s.startsWith "2." then (index (dropChars 2 s)).map (.of false)
  else none

def outputFields? (s : String) : Option (List OutputField) :=
  (((s.split fun c => c == ',' || c == ' ' || c == '\t').toStringList)).mapM outputField?

def joinFields (args : List String) : Chore Nat :=
  let isPlace (v : String) : Bool := isDigits v && v.toNat? != some 0
  let isFile (v : String) : Bool := v == "1" || v == "2"
  withOptions { letters := "1:2:a:e:ij:o:t:v:z", long := [("ignore-case", .none),
    ("check-order", .none), ("nocheck-order", .none), ("header", .none),
    ("zero-terminated", .none)], checks := [
      ⟨["1", "2", "j"], 1, isPlace⟩, ⟨["a", "v"], 1, isFile⟩,
      ⟨["o"], 1, fun v => v == "auto" || (outputFields? v).isSome⟩,
      ⟨["t"], 1, fun v => v.length ≤ 1 || v == "\\0"⟩] } 1 args fun chosen names => do
    let wrong (why : String) : Chore Nat := do
      warn ("join: " ++ why)
      pure 1
    let clash (ns : List String) : Bool :=
      let vs := (chosen.filter fun c => ns.contains c.name).filterMap (·.value)
      vs.any (some · != vs.head?)
    match names with
    | [a, b] => do
      if a == "-" && b == "-" then return ← wrong "both files cannot be standard input"
      if clash ["1", "j"] || clash ["2", "j"] || clash ["t"] || clash ["e"] then
        return ← wrong "incompatible options"
      let (s, okA) ← allText [a]
      if !okA then return 1
      let (t, okB) ← allText [b]
      if !okB then return 1
      let ending := if has chosen ["z", "zero-terminated"] then '\x00' else '\n'
      let place (ns : List String) : Nat := (((valueOf? chosen ns).bind String.toNat?).getD 1) - 1
      let lone (v : String) : Bool := chosen.any fun c =>
        (c.name == "a" || c.name == "v") && c.value == some v
      let lists := (chosen.filter (·.name == "o")).filterMap (·.value)
      let j : Joining := {
        separator := (valueOf? chosen ["t"]).map fun v =>
          if v == "\\0" then '\x00' else v.toList.headD '\n'
        keyA := place ["1", "j"]
        keyB := place ["2", "j"]
        folded := has chosen ["i", "ignore-case"]
        filler := (valueOf? chosen ["e"]).getD ""
        pairs := !has chosen ["v"]
        loneA := lone "1"
        loneB := lone "2"
        output := if lists.isEmpty || lists.contains "auto" then none
          else some ((lists.mapM outputFields?).getD []).flatten
        counts := none
        watch := watchOf chosen
        ending := ending }
      let as := (linesBy ending s).map j.record
      let bs := (linesBy ending t).map j.record
      let size (rs : List Record) : Nat := (rs.head?.map (·.fields.size)).getD 0
      let j := if lists.contains "auto" then { j with counts := some (size as, size bs) } else j
      let header := has chosen ["header"] && !(as.isEmpty && bs.isEmpty)
      if header then say (j.shown as.head? bs.head?)
      let as := if header then as.drop 1 else as
      let bs := if header then bs.drop 1 else bs
      let start : Noticed := {}
      let (out, noticed) := j.go (as.length + bs.length + 2) start as bs []
      say (String.join out.reverse)
      if noticed.disorder then wrong "input is not in sorted order" else finish 0
    | _ => wrong "two operands are needed"

end StreamSupervisor.Tool
