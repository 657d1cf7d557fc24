import StreamSupervisor.Tool.Edit.Script
import StreamSupervisor.Tool.Paths
import StreamSupervisor.Tool.Starters

/-! # Editing streams

A script of commands is applied to each line of the input: lines are chosen by number or by
what they hold, and changed, shown, kept or dropped.
-/

namespace StreamSupervisor.Tool

open Machine

namespace Edit

/-- What is written at the end of a cycle: a text, or all of a file. -/
inductive Queued where
  | text (text : String)
  | file (path : String)

/-- A file that the script writes to. -/
structure Output where
  path : String
  descriptor : Nat
  /-- Whether the last line lacks its end. -/
  unended : Bool := false

/-- A line as it was read. -/
structure Taken where
  text : String
  hasEnd : Bool
  /-- From where it came. -/
  name : String

structure Engine where
  steps : Array Step
  quiet : Bool
  mark : String
  /-- The names that are still to be read, and the input that is being read. -/
  names : List String
  separate : Bool := false
  inPlace : Option String := none
  input : Option (String × LineSource) := none
  /-- Whether lines are read one by one. -/
  unbuffered : Bool := false
  /-- The line after the present one, read already. -/
  ahead : Option Taken := none
  line : String := ""
  /-- Whether the present line has its end. -/
  hasEnd : Bool := true
  hold : String := ""
  /-- Whether the line that is kept has its end. -/
  holdHasEnd : Bool := true
  count : Nat := 0
  /-- For each step, up to where it is chosen: a line number, or a match still to come. -/
  ranges : List (Nat × Option Nat) := []
  replaced : Bool := false
  lastPattern : Option (Regex × Bool) := none
  queued : List Queued := []
  /-- Whether the last line that was written lacks its end. -/
  unended : Bool := false
  outputs : List Output := []
  /-- The files that lines are taken from, one at a time. -/
  sources : List (String × Option LineSource) := []
  posix : Bool := false
  width : Nat := 70
  environment : List String := []
  /-- What was written for the file that is being edited. -/
  captured : List String := []
  code : Nat := 0
  /-- From where the present line came. -/
  name : String := "-"
  /-- Whether the file behind a link is edited, and not the link replaced. -/
  followsLinks : Bool := false

abbrev Work := StateT Engine Chore

def chore {α : Type} (c : Chore α) : Work α := StateT.lift c

def emit (text : String) : Work Unit := do
  let e ← get
  if e.inPlace.isSome then set { e with captured := text :: e.captured }
  else chore (say text)

/-- Write the end that the line written last lacks. -/
def endLine : Work Unit := do
  let e ← get
  if e.unended then do
    set { e with unended := false }
    emit e.mark

/-- Write a text below what was written before. -/
def emitBelow (text : String) : Work Unit := do
  endLine
  emit text

/-- Write a text whose last line ends as the lines of the input do. -/
def emitText (text : String) : Work Unit := do
  let e ← get
  emitBelow (if text.endsWith "\n" then (text.dropEnd 1).toString ++ e.mark else text)

/-- Write a line, which has an end unless it is the last one of an input without one. -/
def emitLine (text : String) (ended : Bool) : Work Unit := do
  endLine
  let e ← get
  emit (text ++ (if ended then e.mark else ""))
  modify fun e => { e with unended := !ended }

/-- Put the edited text in the place of a file's. -/
def writeBack (name : String) : Work Unit := do
  let e ← get
  let name ← do
    match e.followsLinks, ← chore (askText (.realPath name)) with
    | true, .ok path => pure path
    | _, _ => pure name
  match e.inPlace with
  | none => pure ()
  | some ending => do
    if !ending.isEmpty then do
      let backup := if ending.contains '*' then
          String.intercalate (baseName name) (ending.splitOn "*")
        else name ++ ending
      match ← chore (openFile name .reading) with
      | .ok d => do
        let old ← chore (readAll d)
        chore (close d)
        match ← chore (openFile backup .writing) with
        | .ok b => do
          let _ ← chore (write b old)
          chore (close b)
        | .error _ => pure ()
      | .error _ => pure ()
    let mode ← do
      match ← chore (inspect? name true) with
      | some i => pure i.mode
      | none => pure 420
    let temporary := name ++ ".sed"
    match ← chore (openFile temporary .writing) with
    | .ok d => do
      let _ ← chore (write d (String.join e.captured.reverse))
      chore (close d)
      let _ ← chore (askDone (.changeMode temporary mode))
      let _ ← chore (askDone (.rename temporary name))
    | .error _ => set { e with code := 4 }
    modify fun e => { e with captured := [] }

/-- Open the next input, if there is one left that can be read. -/
def openNext : Nat → Work Bool
  | 0 => pure false
  | n + 1 => do
    let e ← get
    match e.names with
    | [] => pure false
    | name :: rest => do
      set { e with names := rest }
      let how : Intake := {
        mark := e.mark.toList.headD '\n', block := if e.unbuffered then 1 else 4096
        returns := true }
      let begin_ (d : Nat) : Work Bool := do
        let source ← chore (LineSource.ofDescriptor how d)
        modify fun e => { e with input := some (name, source) }
        pure true
      let kind? := (← chore (inspect? name true)).map (·.kind)
      let isPlain := kind? == some .plain
      if name == "-" && e.inPlace.isNone then begin_ 0
      else if e.inPlace.isSome && !isPlain then do
        let exists_ ← chore (inspect? name true)
        chore (warn ("sed: couldn\x27t edit " ++ name))
        modify fun e => { e with code := if exists_.isSome then 4 else 2 }
        openNext n
      else if kind? == some .directory then do
        chore (warn ("sed: read error on " ++ name ++ ": Is a directory"))
        chore (Doing.leave 4)
      else
        match ← chore (openInput name) with
        | some d => begin_ d
        | none => do
          modify fun e => { e with code := 2 }
          openNext n

/-- The next line of the inputs, without its end. -/
def fetch : Nat → Work (Option Taken)
  | 0 => pure none
  | n + 1 => do
    let e ← get
    match e.input with
    | none =>
      if ← openNext (e.names.length + 1) then fetch n else pure none
    | some (name, source) =>
      let (got, source) ← chore (source.next endless)
      modify fun e => { e with input := some (name, source) }
      match got with
      | some text =>
        if text.endsWith e.mark then pure (some ⟨(text.dropEnd 1).toString, true, name⟩)
        else pure (some ⟨text, false, name⟩)
      | none =>
        if e.separate then pure none
        else do
          chore (close source.descriptor)
          modify fun e => { e with input := none }
          fetch n

/-- Whether the present line is the last one. -/
def atLast : Work Bool := do
  let e ← get
  match e.ahead with
  | some _ => pure false
  | none => do
    let next ← fetch 1000
    modify fun e => { e with ahead := next }
    pure next.isNone

/-- Write what was put aside for the end of the cycle. -/
def flushQueue : Work Unit := do
  let e ← get
  set { e with queued := [] }
  for q in e.queued do
    endLine
    match q with
    | .text text => emit text
    | .file path =>
      let d? ← if path == "/dev/stdin" then pure (.ok 0) else chore (openFile path .reading)
      match d? with
      | .ok d => do
        let text ← chore (readAll d)
        if d != 0 then chore (close d)
        emit text
      | .error _ => pure ()

/-- Take the next line; it is put behind the present one where asked. -/
def advance (append : Bool) : Work Bool := do
  flushQueue
  let e ← get
  let next ← match e.ahead with
    | some l => pure (some l)
    | none => fetch 1000
  match next with
  | none => pure false
  | some t => do
    modify fun e => { e with
      line := if append then e.line ++ e.mark ++ t.text else t.text
      hasEnd := t.hasEnd, name := t.name, count := e.count + 1, ahead := none, replaced := false }
    pure true

def patternOf (p : Option (Regex × Bool)) : Work (Option (Regex × Bool)) := do
  match p with
  | some r => do
    modify fun e => { e with lastPattern := some r }
    pure (some r)
  | none => do
    let e ← get
    if e.lastPattern.isNone then do
      chore (warn "sed: no previous regular expression")
      chore (Doing.leave 1)
    else pure e.lastPattern

def holdsPattern (p : Option (Regex × Bool)) : Work Bool := do
  match ← patternOf p with
  | some (r, i) => do
    let e ← get
    pure (Regex.isIn i r e.line)
  | none => pure false

def isAt (a : Address) : Work Bool := do
  let e ← get
  match a with
  | .line n => pure (e.count == n)
  | .every first step =>
    pure (if step = 0 then e.count == first
      else decide (first ≤ e.count) && (e.count - first) % step == 0)
  | .last => atLast
  | .pattern p => holdsPattern p
  | .more _ | .multiple _ => pure false

def setRange (i : Nat) (end_ : Option (Option Nat)) : Work Unit := modify fun e =>
  let others := e.ranges.filter (·.1 != i)
  { e with ranges := match end_ with
      | some x => (i, x) :: others
      | none => others }

/-- Whether a step is meant for the present line. -/
def isChosen (i : Nat) (c : Choosing) : Work Bool := do
  let e ← get
  let hit ← match c.first, c.second with
    | none, _ => pure true
    | some a, none => isAt a
    | some a, some b =>
      match e.ranges.lookup i with
      | some (some last) =>
        if e.count < last then pure true
        else do
          setRange i none
          if e.count == last then pure true
          else
            /- The range ended before this line; it may begin anew. -/
            isAt a
      | some none => do
        let ends ← match b with
          | .line n => pure (decide (n ≤ e.count))
          | b => isAt b
        if ends then setRange i none
        match b with
        | .line n => if n < e.count then isAt a else pure true
        | _ => pure true
      | none => do
        let begins ← match a with
          | .line 0 => pure (e.count == 1)
          | a => isAt a
        if !begins then pure false
        else do
          let isZero := match a with
            | .line 0 => true
            | _ => false
          match b with
          | .line n => if e.count < n then setRange i (some none)
          | .every .. => if !(← isAt b) then setRange i (some none)
          | .more n => if 0 < n then setRange i (some (some (e.count + n)))
          | .multiple n =>
            let last := if n = 0 then e.count else (e.count / n + 1) * n
            if e.count < last then setRange i (some (some last))
          | b =>
            if isZero then
              if !(← isAt b) then setRange i (some none)
            else
              match b with
              | .last => if !(← atLast) then setRange i (some none)
              | _ => setRange i (some none)
          pure true
  pure (hit != c.negated)

/-! ## Substitutions -/

/-- A text with its letters changed. -/
def Casing.apply (k : Casing) (s : String) : String :=
  let s := match k.all with
    | some true => s.toUpper
    | some false => s.toLower
    | none => s
  match k.first, s.toList with
  | some upper, c :: cs => String.ofList ((if upper then c.toUpper else c.toLower) :: cs)
  | _, _ => s

/-- The text of a replacement for a match. A change of the first letter waits behind a group
that matched nothing. -/
def replacementText (parts : List Part) (from_ to_ : Regex.At) : String :=
  let whole := String.ofList (from_.rest.take (to_.place - from_.place))
  let step (acc : List String × Option Bool) (p : Part) : List String × Option Bool :=
    let (out, waiting) := acc
    let casing : Casing := { p.casing with first := p.casing.first <|> waiting }
    let out := if p.text.isEmpty then out else casing.apply p.text :: out
    let casing : Casing := if p.text.isEmpty then casing else { casing with first := none }
    match p.group with
    | none => (out, none)
    | some n =>
      let text := if n = 0 then whole else (to_.group? n).getD ""
      if text.isEmpty then (out, if p.casing.first.isSome then casing.first else none)
      else (casing.apply text :: out, none)
  String.join (parts.foldl step ([], none)).1.reverse

/-- Replace the chosen matches from a place on; the number of matches before it is given. -/
def replaceFrom (ignoreCase : Bool) (r : Regex) (s : Substitution) :
    Nat → Regex.At → Nat → Option Nat → List String → List String × Bool
  | 0, x, _, _, acc => (String.ofList x.rest :: acc, false)
  | n + 1, x, count, lastEnd, acc =>
    match Regex.search? ignoreCase r x.rest { x with groups := [] } with
    | none => (String.ofList x.rest :: acc, false)
    | some (a, b) =>
      let skipped := String.ofList (x.rest.take (a.place - x.place))
      let isEmptyAfterMatch := a.place == b.place && lastEnd == some a.place
      if isEmptyAfterMatch then
        match a.rest with
        | [] => (skipped :: acc, false)
        | c :: _ => replaceFrom ignoreCase r s n a.next count none (c.toString :: skipped :: acc)
      else
        let count := count + 1
        let isHit := if s.everywhere then decide (s.which ≤ count) else count == s.which
        let new := if isHit then replacementText s.parts a b
          else String.ofList (a.rest.take (b.place - a.place))
        let acc := new :: skipped :: acc
        if isHit && !s.everywhere then (String.ofList b.rest :: acc, true)
        else if a.place == b.place then
          match b.rest with
          | [] => (acc, isHit)
          | c :: _ =>
            let (out, hit) := replaceFrom ignoreCase r s n b.next count none (c.toString :: acc)
            (out, hit || isHit)
        else
          let (out, hit) := replaceFrom ignoreCase r s n b count (some b.place) acc
          (out, hit || isHit)

/-- Write a line to one of the files that the script names. -/
def outputTo (path text : String) (ended : Bool) : Work Unit := do
  let e ← get
  match e.outputs.find? (·.path == path) with
  | none => pure ()
  | some o => do
    let before := if o.unended then e.mark else ""
    let _ ← chore (write o.descriptor (before ++ text ++ (if ended then e.mark else "")))
    let mark_ (x : Output) : Output := if x.path == path then { x with unended := !ended } else x
    set { e with outputs := e.outputs.map mark_ }

/-- What a command writes. -/
def commandOutput (command : String) : Work String := do
  let e ← get
  match ← chore (Asking.ask .pipe) with
  | .pair r w => do
    let pid ← chore (Doing.fork (do
      let _ ← Asking.ask (.replace w 1)
      close r
      close w
      startProgram "sed" "/bin/sh" ["-c", command] e.environment))
    chore (close w)
    let text ← chore (readAll r)
    chore (close r)
    let _ ← chore (Asking.ask (.collect (some pid) true))
    pure text
  | _ => pure ""

/-- Take the line as a command, and put what it writes in its place. -/
def runLine : Work Unit := do
  let e ← get
  let text ← commandOutput e.line
  modify fun e => { e with
    line := if text.endsWith e.mark then (text.dropEnd 1).toString else text }

def substitute (s : Substitution) : Work Unit := do
  match ← patternOf s.pattern with
  | none => pure ()
  | some (r, i) => do
    let e ← get
    let (parts, hit) := replaceFrom i r s (e.line.length + 2) (Regex.start e.line) 0 none []
    if hit then do
      let new := String.join parts.reverse
      set { e with line := new, replaced := true }
      if s.printFirst then emitLine new e.hasEnd
      if s.runs then runLine
      let e ← get
      if s.print then emitLine e.line e.hasEnd
      match s.file with
      | some path => outputTo path e.line e.hasEnd
      | none => pure ()

/-- A character that cannot be seen is spelt out. -/
def spelled (c : Char) : String :=
  match c with
  | '\\' => "\\\\"
  | '\n' => "\\n"
  | '\t' => "\\t"
  | '\r' => "\\r"
  | '\x07' => "\\a"
  | '\x08' => "\\b"
  | '\x0c' => "\\f"
  | '\x0b' => "\\v"
  | c =>
    if between ' ' '~' c then c.toString
    else
      let ds := digits 8 c.toNat
      "\\" ++ String.ofList (List.replicate (3 - ds.length) '0') ++ ds

/-- A text in which everything is spelt out, in lines that are not longer than a width. -/
def spelledLines (mark : String) (width : Nat) (s : String) : String :=
  let step (acc : List String × Nat) (c : Char) : List String × Nat :=
    let (out, place) := acc
    let piece := spelled c
    if 0 < width && width - 1 < place + piece.length then
      (piece :: ("\\" ++ mark) :: out, piece.length)
    else (piece :: out, place + piece.length)
  String.join (s.toList.foldl step ([], 0)).1.reverse ++ "$" ++ mark

/-! ## Cycles -/

/-- How a cycle ends. -/
inductive Outcome where
  /-- The line is shown and the next one begins. -/
  | finish
  /-- The next line begins at once. -/
  | drop
  | quit (print : Bool) (code : Option Nat)

def placeOf (steps : Array Step) (label : String) : Nat :=
  (steps.toList.findIdx? fun s =>
    match s.action with
    | .label l => l == label
    | _ => false).getD steps.size

/-- The part of a text in front of the first mark, and the part behind it if there is one. -/
def cutAt (mark s : String) : String × Option String :=
  match s.splitOn mark with
  | first :: second :: rest => (first, some (mark.intercalate (second :: rest)))
  | _ => (s, none)

/-- Take a line from a file that the script names. -/
def lineFrom (path : String) : Work (Option String) := do
  let e ← get
  let source? ← match e.sources.lookup path with
    | some s => pure s
    | none => do
      let d? ← if path == "/dev/stdin" then pure (.ok 0) else chore (openFile path .reading)
      match d? with
      | .ok d => do
        let s ← chore (LineSource.ofDescriptor { mark := e.mark.toList.headD '\n' } d)
        pure (some s)
      | .error _ => pure none
  match source? with
  | none => pure none
  | some source => do
    let (line, source) ← chore (source.next endless)
    modify fun e => { e with
      sources := (path, some source) :: e.sources.filter fun s => s.1 != path }
    pure line

/-- Go through the steps from one on. -/
def cycle : Nat → Nat → Work Outcome
  | 0, _ => pure (.quit false none)
  | n + 1, i => do
    let e ← get
    match e.steps[i]? with
    | none => pure .finish
    | some step => do
      let chosen ← isChosen i step.choosing
      match step.action with
      | .block after => if chosen then cycle n (i + 1) else cycle n after
      | action =>
        if !chosen then cycle n (i + 1)
        else do
          let e ← get
          let onward : Work Outcome := cycle n (i + 1)
          match action with
          | .block _ | .nothing | .label _ => onward
          | .append t => do
            set { e with queued := e.queued ++ [Queued.text t] }
            onward
          | .insert t => do
            emitText t
            onward
          | .change t => do
            let inRange := step.choosing.second.isSome && (e.ranges.lookup i).isSome
            if !inRange then emitText t
            pure .drop
          | .branch l condition => do
            let takes := match condition with
              | none => true
              | some wanted => e.replaced == wanted
            if condition.isSome then set { e with replaced := false }
            if !takes then onward
            else if l.isEmpty then pure .finish
            else do
              let _ ← chore (Asking.ask (.rest 1))
              cycle n (placeOf e.steps l)
          | .delete false => pure .drop
          | .delete true =>
            match cutAt e.mark e.line with
            | (_, some rest) => do
              set { e with line := rest }
              cycle n 0
            | _ => pure .drop
          | .get append => do
            set { e with
              line := if append then e.line ++ e.mark ++ e.hold else e.hold
              hasEnd := e.holdHasEnd }
            onward
          | .hold append => do
            set { e with
              hold := if append then e.hold ++ e.mark ++ e.line else e.line
              holdHasEnd := e.hasEnd }
            onward
          | .exchange => do
            set { e with
              line := e.hold, hold := e.line, hasEnd := e.holdHasEnd, holdHasEnd := e.hasEnd }
            onward
          | .next append => do
            if ← atLast then
              if append && e.posix then pure .drop else pure .finish
            else do
              if !append then
                if !e.quiet then emitLine e.line e.hasEnd
              let _ ← advance append
              onward
          | .print false => do
            emitLine e.line e.hasEnd
            onward
          | .print true => do
            let (first, rest) := cutAt e.mark e.line
            emitLine first (rest.isSome || e.hasEnd)
            onward
          | .list width => do
            emitBelow (spelledLines e.mark (width.getD e.width) e.line)
            onward
          | .broken => chore (Doing.leave 4)
          | .number => do
            emitBelow (toString e.count ++ e.mark)
            onward
          | .name => do
            emitBelow (e.name ++ e.mark)
            onward
          | .quit print code => pure (.quit print (some code))
          | .readFile p => do
            set { e with queued := e.queued ++ [Queued.file p] }
            onward
          | .readLine p => do
            match ← lineFrom p with
            | some text => modify fun e => { e with queued := e.queued ++ [Queued.text text] }
            | none => pure ()
            onward
          | .writeFile p false => do
            outputTo p e.line e.hasEnd
            onward
          | .writeFile p true => do
            let (first, rest) := cutAt e.mark e.line
            outputTo p first (rest.isSome || e.hasEnd)
            onward
          | .run command => do
            if command.isEmpty then runLine
            else do
              let text ← commandOutput command
              if !text.isEmpty then emitBelow text
            onward
          | .substitute s => do
            substitute s
            onward
          | .transliterate source target => do
            let table := source.zip target
            set { e with line := e.line.map fun c => (table.lookup c).getD c }
            onward
          | .clear => do
            set { e with line := "" }
            onward

/-- Edit line after line. The code is handed back with which the script wants to end. -/
def runLines : Nat → Work (Option Nat)
  | 0 => pure none
  | n + 1 => do
    if !(← advance false) then pure none
    else do
      match ← cycle endless 0 with
      | .finish => do
        let e ← get
        if !e.quiet then emitLine e.line e.hasEnd
        runLines n
      | .drop => runLines n
      | .quit print code => do
        let e ← get
        if print then
          if !e.quiet then emitLine e.line e.hasEnd
          endLine
          flushQueue
        pure (some (code.getD 0))

/-- Edit each of some files by itself. -/
def runFiles : List String → Work (Option Nat)
  | [] => pure none
  | name :: rest => do
    modify fun e => { e with names := [name], input := none, ahead := none }
    if ← openNext 1 then do
      modify fun e => { e with
        count := 0, ranges := [], unended := e.unended && e.inPlace.isNone, sources := [] }
      let quit ← runLines endless
      writeBack name
      match quit with
      | some code => pure (some code)
      | none => runFiles rest
    else runFiles rest

def longNames : List (String × Arity) :=
  [("binary", .none), ("regexp-extended", .none), ("debug", .none), ("in-place", .optional),
    ("expression", .required), ("file", .required), ("line-length", .required),
    ("null-data", .none), ("zero-terminated", .none), ("quiet", .none), ("posix", .none),
    ("silent", .none), ("sandbox", .none), ("separate", .none), ("unbuffered", .none),
    ("follow-symlinks", .none)]

/-- Open the files that a script writes to; it is told whether that worked. -/
def openOutputs (steps : Array Step) : Chore (Option (List Output)) := do
  let mut outputs : List Output := []
  for step in steps do
    match step.action.output? with
    | none => pure ()
    | some path =>
      if outputs.any (·.path == path) then pure ()
      else if path == "/dev/stdout" then outputs := { path := path, descriptor := 1 } :: outputs
      else if path == "/dev/stderr" then outputs := { path := path, descriptor := 2 } :: outputs
      else
        match ← openFile path .writing with
        | .ok d => outputs := { path := path, descriptor := d } :: outputs
        | .error why => do
          warn ("sed: couldn\x27t open file " ++ path ++ ": " ++ why.text)
          return none
  pure (some outputs)

/-- The scripts among the options, or nothing if one of them cannot be read. -/
def scriptsOf (chosen : List Choice) : Chore (Option (List String)) := do
  let mut scripts : List String := []
  for c in chosen do
    if c.name == "e" || c.name == "expression" then scripts := scripts ++ [c.value.getD ""]
    else if c.name == "f" || c.name == "file" then
      let path := c.value.getD ""
      match ← (if path == "-" then pure (.ok 0) else openFile path .reading) with
      | .ok d => do
        let text ← readAll d
        scripts := scripts ++ [chomp text]
      | .error why => do
        warn ("sed: couldn\x27t open file " ++ path ++ ": " ++ why.text)
        return none
  pure (some scripts)

end Edit

def edit (args environment : List String) : Chore Nat :=
  withOptions { letters := "bsnrzuEe:f:l:i::s", long := Edit.longNames } 1 args
    fun chosen operands => do
    let fail (code : Nat) (why : String) : Chore Nat := do
      warn ("sed: " ++ why)
      pure code
    let some scripts ← Edit.scriptsOf chosen | pure 1
    let isGiven := has chosen ["e", "f", "expression", "file"]
    let (texts, names) :=
      if isGiven then (scripts, operands) else (operands.take 1, operands.drop 1)
    let inPlace := if has chosen ["i", "in-place"] then
        some ((valueOf? chosen ["i", "in-place"]).getD "")
      else none
    if texts.isEmpty then
      fail 1 "usage: sed [OPTION]... \x7bscript-only-if-no-other-script\x7d [input-file]..."
    else
      let text := "\n".intercalate texts
      let extended := has chosen ["E", "r", "regexp-extended"]
      match Edit.readScript extended text with
      | .error code => fail code "-e expression #1: unknown command"
      | .ok steps =>
        if has chosen ["sandbox"] && steps.any (·.action.isOutward) then
          fail 1 "e/r/w commands disabled in sandbox mode"
        else do
          let some outputs ← Edit.openOutputs steps | pure 4
          if inPlace.isSome && names.isEmpty then return ← fail 4 "no input files"
          let e : Edit.Engine := {
            steps := steps, inPlace := inPlace, outputs := outputs, environment := environment
            quiet := has chosen ["n", "quiet", "silent"] || text.startsWith "#n"
            mark := if has chosen ["z", "null-data", "zero-terminated"] then "\x00" else "\n"
            separate := inPlace.isSome || has chosen ["s", "separate"]
            unbuffered := has chosen ["u", "unbuffered"]
            posix := has chosen ["posix"]
            followsLinks := has chosen ["follow-symlinks"]
            width := ((valueOf? chosen ["l", "line-length"]).bind String.toNat?).getD 70
            names := orStandard names }
          let (quit, e) ← (if e.separate then Edit.runFiles e.names
            else Edit.runLines endless).run e
          let code := match quit with
            | some 0 | none => e.code
            | some c => c
          finishWith 4 code

end StreamSupervisor.Tool
