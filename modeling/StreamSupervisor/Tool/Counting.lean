import StreamSupervisor.Tool.Intake

/-! # Counting

Programs that count what they read, or tell repeated lines from others.
-/

namespace StreamSupervisor.Tool

open Machine

/-! ## Repeated lines -/

/-- Cut a list into runs of things that are the same. -/
def runsOf {α : Type} (same : α → α → Bool) : List α → List (List α)
  | [] => []
  | a :: rest =>
    match runsOf same rest with
    | (b :: run) :: more => if same a b then (a :: b :: run) :: more else [a] :: (b :: run) :: more
    | other => [a] :: other

/-- Remove lines that equal the one before them. -/
def dropRepeats (same : String → String → Bool) (lines : List String) : List String :=
  (runsOf same lines).filterMap List.head?

/-- The part of a line that is compared. -/
structure Focus where
  fields : Nat := 0
  skipped : Nat := 0
  most : Option Nat := none
  folded : Bool := false

def Focus.of (f : Focus) (line : String) : List Char :=
  let isGap (c : Char) : Bool := c == ' ' || c == '\t' || c == '\n'
  let cs := (List.range f.fields).foldl (fun cs _ =>
    (cs.dropWhile isGap).dropWhile fun c => !isGap c) line.toList
  let cs := cs.drop f.skipped
  let cs := match f.most with
    | some n => cs.take n
    | none => cs
  if f.folded then cs.map fun c => if isLower c then Char.ofNat (c.toNat - 32) else c else cs

/-- Numbers written right behind a dash, which may be spread over some letters. -/
def bareNumber? (chosen : List Choice) : Option Nat :=
  let ds := (chosen.filter fun c => isDigits c.name).map (·.name)
  (String.join ds).toNat?

/-- All lines, with empty ones between the runs: before each, behind each, or both. -/
def separated (how : String) (mark : String) (runs : List (List String)) : String :=
  let body (r : List String) : String := String.join (r.map (· ++ mark))
  let texts := runs.map body
  if runs.isEmpty then ""
  else
    match how with
    | "prepend" => String.join (texts.map (mark ++ ·))
    | "append" => String.join (texts.map (· ++ mark))
    | "both" => mark ++ String.join (texts.map (· ++ mark))
    | _ => mark.intercalate texts

def uniq (args : List String) : Chore Nat :=
  let methods := ["none", "prepend", "separate"]
  let groupings := ["separate", "prepend", "append", "both"]
  withOptions { letters := "0123456789cdDf:is:uw:z", long := [("count", .none),
    ("repeated", .none), ("unique", .none), ("ignore-case", .none), ("skip-fields", .required),
    ("skip-chars", .required), ("check-chars", .required), ("zero-terminated", .none),
    ("all-repeated", .optional), ("group", .optional)], checks := [
      ⟨["f", "s", "w", "skip-fields", "skip-chars", "check-chars"], 1, isDigits⟩,
      .words ["all-repeated"] methods, .words ["group"] groupings] } 1 args
    fun chosen names => do
    let every := has chosen ["D", "all-repeated"]
    let counted := has chosen ["c", "count"]
    let repeated := every || has chosen ["d", "repeated"]
    let unique := has chosen ["u", "unique"]
    let wrong (why : String) : Chore Nat := do
      warn ("uniq: " ++ why)
      pure 1
    let grouped := has chosen ["group"]
    if every && counted || grouped && (repeated || counted || unique) then
      return ← wrong "options cannot be combined"
    if 2 < names.length then return ← wrong "extra operand"
    let (text, ok) ← allText (names.take 1)
    if !ok then return 1
    let mark := if has chosen ["z", "zero-terminated"] then '\x00' else '\n'
    let number (ns : List String) : Option Nat := (valueOf? chosen ns).bind String.toNat?
    let focus : Focus := {
      fields := ((number ["f", "skip-fields"]).or (bareNumber? chosen)).getD 0
      skipped := (number ["s", "skip-chars"]).getD 0
      most := number ["w", "check-chars"]
      folded := has chosen ["i", "ignore-case"] }
    let runs := runsOf (fun a b => focus.of a == focus.of b) (linesBy mark text)
    let ending := mark.toString
    let out :=
      if grouped then
        separated (wordFor groupings ((valueOf? chosen ["group"]).getD "separate")) ending runs
      else if every then
        let shown := (runs.filter fun r => decide (1 < r.length)).map fun r =>
          if unique then r.dropLast else r
        match wordFor methods ((valueOf? chosen ["all-repeated"]).getD "none") with
        | "none" => String.join (shown.flatten.map (· ++ ending))
        | how => separated how ending shown
      else
        let shown := runs.filter fun r =>
          if 1 < r.length then !unique else !repeated
        String.join (shown.map fun r =>
          let ds := toString r.length
          let front := if counted then
              String.ofList (List.replicate (7 - ds.length) ' ') ++ ds ++ " "
            else ""
          front ++ r.headD "" ++ ending)
    match (names.drop 1).filter (· != "-") with
    | target :: _ =>
      match ← openFile target .writing with
      | .error _ => pure 1
      | .ok d => do
        let _ ← write d out
        finish 0
    | [] => do
      say out
      finish 0

/-! ## Counts -/

/-- How many line ends, words and bytes a text has, and how wide its widest line is. -/
structure Tally where
  lineEnds : Nat := 0
  words : Nat := 0
  bytes : Nat := 0
  widest : Nat := 0

/-- The widest place that is reached; a tab leads to the next multiple of eight. -/
def widestOf (cs : List Char) : Nat :=
  let (widest, place) := cs.foldl (fun (widest, place) c =>
    if c == '\n' || c == '\r' || c == '\x0c' then (Nat.max widest place, 0)
    else if c == '\t' then (widest, place + 8 - place % 8)
    else if 32 ≤ c.toNat && c.toNat < 127 then (widest, place + 1)
    else (widest, place)) (0, 0)
  Nat.max widest place

def Tally.ofText (text : String) : Tally :=
  let cs := text.toList
  let (words, _) := cs.foldl (fun (n, within) c =>
    if isSpace c then (n, false)
    else if within then (n, true)
    else if 32 ≤ c.toNat && c.toNat < 127 then (n + 1, true)
    else (n, within)) (0, false)
  { lineEnds := cs.countP (· == '\n'), words := words, bytes := cs.length
    widest := widestOf cs }

def Tally.add (s t : Tally) : Tally :=
  { lineEnds := s.lineEnds + t.lineEnds, words := s.words + t.words, bytes := s.bytes + t.bytes
    widest := Nat.max s.widest t.widest }

/-- How many columns numbers take: as many as the size of all files has digits, but seven
where something else than a file is read. -/
def tallyWidth (names : List String) : Chore Nat := do
  let mut size := 0
  let mut least := 1
  for name in orStandard names do
    let info ← if name == "-" then Asking.ask (.inspectOpen 0)
      else Asking.ask (.inspect name true)
    match info with
    | .info i => if i.kind = .plain then size := size + i.size else least := 7
    | _ => pure ()
  pure (Nat.max least (toString size).length)

def wordCount (args : List String) : Chore Nat :=
  withOptions { letters := "clLmw", long := [("bytes", .none), ("chars", .none),
    ("lines", .none), ("words", .none), ("max-line-length", .none),
    ("files0-from", .required)] } 1 args fun chosen operands => do
    let all := !has chosen ["c", "l", "L", "m", "w", "bytes", "chars", "lines", "words",
      "max-line-length"]
    let pick (t : Tally) : List Nat :=
      (if all || has chosen ["l", "lines"] then [t.lineEnds] else []) ++
      (if all || has chosen ["w", "words"] then [t.words] else []) ++
      (if has chosen ["m", "chars"] then [t.bytes] else []) ++
      (if all || has chosen ["c", "bytes"] then [t.bytes] else []) ++
      (if has chosen ["L", "max-line-length"] then [t.widest] else [])
    let listed := valueOf? chosen ["files0-from"]
    let (names, width) ← match listed with
      | some path => do
        let (text, ok) ← allText [path]
        if !ok || !operands.isEmpty then return 1
        let names := (linesBy '\x00' text).filter (!·.isEmpty)
        let info ← if path == "-" then Asking.ask (.inspectOpen 0)
          else Asking.ask (.inspect path true)
        let isPlain := match info with
          | .info i => decide (i.kind = .plain)
          | _ => false
        let width ← if isPlain == true then tallyWidth names else pure 1
        pure (names, width)
      | none => do
        let single := (pick {}).length = 1 && operands.length ≤ 1
        let width ← if single then pure 1 else tallyWidth operands
        pure (operands, width)
    if listed.isSome && names.isEmpty then return ← finish 0
    let named := !names.isEmpty
    let shown (ns : List Nat) (name : String) : String :=
      let col (n : Nat) : String :=
        let ds := toString n
        String.ofList (List.replicate (width - ds.length) ' ') ++ ds
      " ".intercalate (ns.map col) ++ (if named then " " ++ name else "") ++ "\n"
    let mut code := 0
    let mut total : Tally := {}
    for name in orStandard names do
      match ← openInput name with
      | none => do
        code := 1
        match ← inspect? name true with
        | some i => if i.kind = .directory then say (shown (pick {}) name)
        | none => pure ()
      | some d => do
        let text ← readAll d
        let t := Tally.ofText text
        if name != "-" then close d
        total := total.add t
        say (shown (pick t) name)
    if 1 < names.length then say (shown (pick total) "total")
    finish code

end StreamSupervisor.Tool
