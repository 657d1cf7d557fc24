import StreamSupervisor.Tool.Records.Chance
import StreamSupervisor.Tool.Records.Reader
import StreamSupervisor.Tool.Records.Table
import StreamSupervisor.Tool.Starters
import StreamSupervisor.Tool.Streams

/-! # Running scripts for records

The state of a run, and how statements and expressions work on it.
-/

namespace StreamSupervisor.Tool.Records

open Machine

/-! ## State -/

/-- What a parameter of a function stands for. -/
inductive Slot where
  | value (v : Value)
  | array (name : String)
  /-- Nothing yet: it may become a value, or the array of a name. -/
  | undecided (name : String)

/-- A file or a program that is written to or read from. -/
structure Stream where
  key : String
  descriptor : Nat
  process : Option Nat
  source : LineSource := { descriptor := descriptor }

/-- The texts of an input that is cut into records by something else than line ends. -/
abbrev Pieces := Option (List String)

structure State where
  /-- The name that the program goes by. -/
  title : String
  functions : List Function
  environment : List String
  bindings : List (String × Value)
  arrays : List (String × Table) := []
  frame : List (String × Slot) := []
  record : String := ""
  fields : Array String := #[]
  /-- The next argument that is looked at for an input. -/
  nextArgument : Nat := 1
  anyInput : Bool := false
  input : Option LineSource := none
  pieces : Pieces := none
  writers : List Stream := []
  readers : List Stream := []
  /-- The rules that have met the first record of their range. -/
  within : List Nat := []
  fresh : Nat := 0
  seed : Value := .nothing
  chance : Chance := Chance.ofSeed 1
  code : Nat := 0
  /-- What is not written yet, the latest first, and how long it is. -/
  held : List String := []
  heldSize : Nat := 0

/-- What ends the work on a record or on the whole. -/
inductive Leap where
  | next
  | nextFile
  | exit
  | return (v : Value)
  | break
  | continue
  | fault

abbrev Work := ExceptT Leap (StateT State Chore)

def chore {α : Type} (c : Chore α) : Work α := ExceptT.lift (StateT.lift c)

/-- Write what was held back. -/
def flush : Work Unit := do
  let text := String.join (← get).held.reverse
  modify fun s => { s with held := [], heldSize := 0 }
  chore (say text)

def fault {α : Type} (why : String) : Work α := do
  chore (warn ((← get).title ++ ": " ++ why))
  modify fun s => { s with code := 2 }
  throw .fault

/-! ## Variables -/

def globalText (s : State) (n : String) (fallback : String) : String :=
  match s.bindings.lookup n with
  | some v => v.toText "%.6g"
  | none => fallback

/-- How numbers become texts, and how they are printed. -/
def convert : Work String := do
  let s ← get
  pure (globalText s "CONVFMT" "%.6g")

def put (l : List (String × α)) (n : String) (v : α) : List (String × α) :=
  if l.any (·.1 == n) then l.map fun p => if p.1 == n then (n, v) else p else (n, v) :: l

def getName (n : String) : Work Value := do
  let s ← get
  match s.frame.lookup n with
  | some (.value v) => pure v
  | some _ => pure .nothing
  | none =>
    if n == "NF" then pure (.ofNat s.fields.size)
    else pure ((s.bindings.lookup n).getD .nothing)

/-- The pieces of a text between the places where a pattern matches more than nothing. -/
def splitAtPattern (r : Regex) : Nat → List Char → List Char → List String → List String
  | 0, rest, piece, acc => (String.ofList (piece.reverse ++ rest) :: acc).reverse
  | n + 1, rest, piece, acc =>
    match Regex.search? false r rest { before := none, rest := rest, place := 0 } with
    | some (a, b) =>
      let piece := (rest.take a.place).reverse ++ piece
      if b.place = a.place then
        match a.rest with
        | c :: rest => splitAtPattern r n rest (c :: piece) acc
        | [] => (String.ofList piece.reverse :: acc).reverse
      else splitAtPattern r n b.rest [] (String.ofList piece.reverse :: acc)
    | none => (String.ofList (piece.reverse ++ rest) :: acc).reverse

/-- Cut a text at blanks, at a character, or where a pattern matches. -/
def splitText (mark : String) (text : String) : List String :=
  if text.isEmpty then []
  else if mark == " " then
    ((text.split fun c => c == ' ' || c == '\t' || c == '\n').toStringList).filter (!·.isEmpty)
  else if mark.isEmpty then text.toList.map (·.toString)
  else if mark.length = 1 then text.splitOn mark
  else
    match readPattern mark with
    | .ok r => splitAtPattern r (text.length + 1) text.toList [] []
    | .error _ => [text]

def setRecord (text : String) : Work Unit := do
  let s ← get
  let mark := globalText s "FS" " "
  set { s with record := text, fields := (splitText mark text).toArray }

def rebuild : Work Unit := modify fun s =>
  { s with record := (globalText s "OFS" " ").intercalate s.fields.toList }

def setName (n : String) (v : Value) : Work Unit := do
  let s ← get
  if s.frame.any (·.1 == n) then set { s with frame := put s.frame n (.value v) }
  else if n == "NF" then do
    let size := (truncated v.toFloat).toNat
    let fields := (s.fields.toList.take size ++ List.replicate (size - s.fields.size) "").toArray
    set { s with fields := fields }
    rebuild
  else set { s with bindings := put s.bindings n v }

/-- The array that a name stands for. -/
def arrayName (n : String) : Work String := do
  let s ← get
  match s.frame.lookup n with
  | some (.array real) => pure real
  | some (.undecided real) => do
    set { s with frame := put s.frame n (.array real) }
    pure real
  | some (.value _) => fault (n ++ " is not an array")
  | none => pure n

def setElements (array : String) (t : Table) : Work Unit :=
  modify fun s => { s with arrays := put s.arrays array t }

/-- Work on an array. It is out of its place meanwhile, so that there is no copy of it. -/
def withTable {α : Type} (array : String) (f : Table → α × Table) : Work α := do
  let t := ((← get).arrays.lookup array).getD {}
  setElements array {}
  let (a, t) := f t
  setElements array t
  pure a

/-- An element of an array, which is there once it was asked for. -/
def getElement (array : String) (key : Key) : Work Value := do
  let real ← arrayName array
  withTable real fun t =>
    match t.find? key with
    | (some v, t) => (v, t)
    | (none, t) => (.nothing, t.put key .nothing)

def setElement (array : String) (key : Key) (v : Value) : Work Unit := do
  let real ← arrayName array
  withTable real fun t => ((), t.put key v)

def getField (i : Nat) : Work Value := do
  let s ← get
  if i = 0 then pure (.input s.record)
  else pure (match s.fields[i - 1]? with
    | some f => .input f
    | none => .nothing)

def setField (i : Nat) (text : String) : Work Unit := do
  if i = 0 then setRecord text
  else do
    modify fun s =>
      let fields := (s.fields.toList ++ List.replicate (i - s.fields.size) "").toArray
      { s with fields := fields.setIfInBounds (i - 1) text }
    rebuild

/-! ## Inputs -/

/-- Cut a whole text into records. -/
def recordsOf (mark text : String) : List String :=
  let parts :=
    if mark.isEmpty then
      let body := String.ofList (text.toList.dropWhile (· == '\n'))
      match readPattern "\n\n+" with
      | .ok r => splitAtPattern r (body.length + 1) body.toList [] []
      | .error _ => [body]
    else if mark.length = 1 then text.splitOn mark
    else splitText mark text
  let parts := if mark.isEmpty then
      parts.map fun p => if p.endsWith "\n" then (p.dropEnd 1).toString else p
    else parts
  if parts.getLast? == some "" || parts.getLast? == some "\n" then parts.dropLast else parts

/-- How inputs are read: a block at a time, to its end. -/
def intake : Intake := { block := 4096, fills := true }

/-- The next record of an open input. -/
def readRecord (source : LineSource) (pieces : Pieces) :
    Work (Option String × LineSource × Pieces) := do
  let s ← get
  let mark := globalText s "RS" "\n"
  match pieces with
  | some (p :: ps) => pure (some p, source, some ps)
  | some [] => pure (none, source, some [])
  | none =>
    if mark == "\n" then do
      let (line, source) ← chore (source.next endless)
      pure (line.map chomp, source, none)
    else do
      let rest ← chore (readAll source.descriptor)
      let text := String.join (source.ready ++ source.begun.reverse) ++ rest
      match recordsOf mark text with
      | p :: ps => pure (some p, source, some ps)
      | [] => pure (none, source, some [])

/-- A value given from outside: it is a number where it looks like one. -/
def outsideValue (text : String) : Value :=
  let rec go : Nat → List Char → List Char
    | 0, _ => []
    | _ + 1, [] => []
    | n + 1, '\\' :: rest =>
      let (cs, rest) := escaped rest
      cs ++ go n rest
    | n + 1, c :: rest => c :: go n rest
  .input (String.ofList (go (text.length + 1) text.toList))

def assignment? (a : String) : Option (String × String) :=
  match splitAtChar? '=' a with
  | some (n, v) => if isName n then some (n, v) else none
  | none => none

/-- Open the next input, if there is one left. -/
def openNext : Nat → Work Bool
  | 0 => pure false
  | n + 1 => do
    let s ← get
    let count := truncated ((s.bindings.lookup "ARGC").getD .nothing).toFloat
    let start : Work Bool := do
      let source : LineSource := { descriptor := 0, how := intake }
      modify fun s => { s with input := some source, anyInput := true, pieces := none }
      pure true
    if count ≤ s.nextArgument then
      if s.anyInput then pure false else start
    else do
      set { s with nextArgument := s.nextArgument + 1 }
      let v? ← withTable "ARGV" fun t => t.find? (.whole s.nextArgument)
      let a := (v?.getD .nothing).toText "%.6g"
      if a.isEmpty then openNext n
      else
        match assignment? a with
        | some (name, v) => do
          setName name (outsideValue v)
          openNext n
        | none =>
          if a == "-" then start
          else
            match ← chore (openFile a .reading) with
            | .ok d => do
              match ← chore (Asking.ask (.inspectOpen d)) with
              | .info i =>
                if i.kind = .directory then fault ("read error on " ++ a ++ ": Is a directory")
              | _ => pure ()
              setName "FILENAME" (.text a)
              setName "FNR" (.number 0.0)
              let source : LineSource := { descriptor := d, how := intake }
              modify fun s => { s with input := some source, anyInput := true, pieces := none }
              pure true
            | .error why => fault ("cannot open " ++ a ++ " (" ++ why.text ++ ")")

/-- Count a record that was read. -/
def countRecord (perFile : Bool) : Work Unit := do
  let add (n : String) : Work Unit := do
    let v ← getName n
    setName n (.number (v.toFloat + 1.0))
  add "NR"
  if perFile then add "FNR"

/-- The next record of the inputs. -/
def nextRecord : Nat → Work (Option String)
  | 0 => pure none
  | n + 1 => do
    let s ← get
    match s.input with
    | none => if ← openNext 10000 then nextRecord n else pure none
    | some source => do
      let (r, source, pieces) ← readRecord source s.pieces
      match r with
      | some text => do
        modify fun s => { s with input := some source, pieces := pieces }
        countRecord true
        pure (some text)
      | none => do
        if source.descriptor != 0 then chore (close source.descriptor)
        modify fun s => { s with input := none, pieces := none }
        nextRecord n

/-! ## Other files and programs -/

/-- Start a program with one end of a pipe as its input or output. -/
def startPiped (command : String) (writes : Bool) : Work Stream := do
  flush
  let s ← get
  match ← chore (Asking.ask .pipe) with
  | .pair r w => do
    let (mine, its, place) := if writes then (r, w, 1) else (w, r, 0)
    let others := (s.writers ++ s.readers).map (·.descriptor)
    let pid ← chore (Doing.fork (do
      let _ ← Asking.ask (.replace its place)
      close r
      close w
      for d in others do close d
      startProgram s.title "/bin/sh" ["-c", command] s.environment))
    chore (close its)
    pure { key := command, descriptor := mine, process := some pid }
  | _ => fault "cannot make a pipe"

/-- How a process has ended, as a number. -/
def endingNumber (status : WaitStatus) : Float :=
  match status.code? with
  | some c => Float.ofInt c.toInt
  | none => Float.ofInt (256 + status.raw.toInt % 128)

def closeStream (x : Stream) : Work Float := do
  chore (close x.descriptor)
  match x.process with
  | none => pure 0.0
  | some pid =>
    match ← chore (Asking.ask (.collect (some pid) true)) with
    | .ended _ status => pure (endingNumber status)
    | _ => pure 0.0

/-- The descriptor that a text is written to. -/
def writerOf (key : String) (open_ : Work Stream) : Work Nat := do
  let s ← get
  match s.writers.find? (·.key == key) with
  | some x => pure x.descriptor
  | none => do
    let x ← open_
    modify fun s => { s with writers := { x with key := key } :: s.writers }
    pure x.descriptor

def openWriter (path : String) (append : Bool) : Work Stream := do
  if path == "/dev/stdout" || path == "-" then pure { key := path, descriptor := 1, process := none }
  else if path == "/dev/stderr" then pure { key := path, descriptor := 2, process := none }
  else
    match ← chore (openFile path (if append then .appending else .writing)) with
    | .ok d => pure { key := path, descriptor := d, process := none }
    | .error why => fault ("cannot open " ++ path ++ " (" ++ why.text ++ ")")

def emit (descriptor : Nat) (text : String) : Work Unit := do
  if descriptor = 1 then do
    modify fun s => { s with held := text :: s.held, heldSize := s.heldSize + text.utf8ByteSize }
    if 4096 ≤ (← get).heldSize then flush
  else
    let _ ← chore (write descriptor text)

/-! ## Expressions and statements -/

def indexIn (s t : List Char) : Nat → List Char → Nat → Nat
  | 0, _, _ => 0
  | n + 1, rest, i =>
    if rest.take t.length == t then i
    else match rest with
      | [] => 0
      | _ :: rest => indexIn s t n rest (i + 1)

/-- What replaces a match, where an ampersand stands for it. -/
def replacement (matched : String) : List Char → List Char
  | '\\' :: '&' :: rest => '&' :: replacement matched rest
  | '\\' :: '\\' :: rest => '\\' :: replacement matched rest
  | '&' :: rest => matched.toList ++ replacement matched rest
  | c :: rest => c :: replacement matched rest
  | [] => []

/-- Replace the first match, or all of them; says how many there were. An empty match right behind
another one does not count. -/
def substitute (r : Regex) (new : String) (everywhere : Bool) :
    Nat → Bool → Regex.At → List Char → Nat → String × Nat
  | 0, _, x, acc, k => (String.ofList (acc.reverse ++ x.rest), k)
  | n + 1, isBehind, x, acc, k =>
    match Regex.search? false r x.rest x with
    | none => (String.ofList (acc.reverse ++ x.rest), k)
    | some (a, b) =>
      if isBehind && b.place = x.place then
        match x.rest with
        | c :: _ => substitute r new everywhere n false x.next (c :: acc) k
        | [] => (String.ofList acc.reverse, k)
      else
      let before := x.rest.take (a.place - x.place)
      let matched := String.ofList (a.rest.take (b.place - a.place))
      let acc := (replacement matched new.toList).reverse ++ before.reverse ++ acc
      if !everywhere then (String.ofList (acc.reverse ++ b.rest), k + 1)
      else if b.place = a.place then
        match b.rest with
        | c :: _ => substitute r new everywhere n false b.next (c :: acc) (k + 1)
        | [] => (String.ofList acc.reverse, k + 1)
      else if b.rest.isEmpty then (String.ofList acc.reverse, k + 1)
      else substitute r new everywhere n true b acc (k + 1)

/-- What is left of a number by another one, with the sign of the first. -/
def remainder (x y : Float) : Float :=
  if x.isNaN || y.isNaN || x.isInf || y == 0.0 then senseless
  else if y.isInf then x
  else
    let a := decimalOf x
    let b := decimalOf y
    let scale := Nat.max a.scale b.scale
    let m := a.digits * Nat.pow 10 (scale - a.scale) % (b.digits * Nat.pow 10 (scale - b.scale))
    let r := Float.ofScientific m true scale
    if a.negative then -r else r

def arithmetic (op : Char) (x y : Float) : Float :=
  match op with
  | '+' => x + y
  | '-' => x - y
  | '*' => x * y
  | '/' => x / y
  | '%' => remainder x y
  | _ => Float.pow x y

mutual

def eval : Nat → Expr → Work Value
  | 0, _ => fault "too deep"
  | n + 1, e =>
    match e with
    | .number f => pure (.number f)
    | .text s => pure (.text s)
    | .pattern r => do
      let s ← get
      pure (.ofBool (Regex.isIn false r s.record))
    | .name v => getName v
    | .element a subs => do
      let key ← keyOf n subs
      getElement a key
    | .field e => do
      let i ← eval n e
      let i := truncated i.toFloat
      if i < 0 then fault "negative field index" else getField i.toNat
    | .grouped e => eval n e
    | .assign op target v => do
      let v ← eval n v
      if op == "=" then assign n target v
      else do
        let old ← eval n target
        let c := op.toList.headD '+'
        assign n target (.number (arithmetic c old.toFloat v.toFloat))
    | .choice c a b => do
      if (← eval n c).isTrue then eval n a else eval n b
    | .or a b => do
      if (← eval n a).isTrue then pure (.ofBool true)
      else pure (.ofBool (← eval n b).isTrue)
    | .and a b => do
      if (← eval n a).isTrue then pure (.ofBool (← eval n b).isTrue)
      else pure (.ofBool false)
    | .isIn subs a => do
      let key ← keyOf n subs
      let real ← arrayName a
      pure (.ofBool (← withTable real fun t => let (v, t) := t.find? key; (v.isSome, t)))
    | .isMatch negated a b => do
      let text := (← eval n a).toText (← convert)
      let r ← patternOf n b
      pure (.ofBool (Regex.isIn false r text != negated))
    | .compare op a b => do
      let x ← eval n a
      let y ← eval n b
      pure (.ofBool (Value.compare (← convert) op x y))
    | .concat a b => do
      let x ← eval n a
      let y ← eval n b
      let f ← convert
      pure (.text (x.toText f ++ y.toText f))
    | .arith op a b => do
      let x ← eval n a
      let y ← eval n b
      pure (.number (arithmetic op x.toFloat y.toFloat))
    | .not e => do
      pure (.ofBool !(← eval n e).isTrue)
    | .negative e => do
      pure (.number (0.0 - (← eval n e).toFloat))
    | .positive e => do
      pure (.number (← eval n e).toFloat)
    | .count up before target => do
      let old := (← eval n target).toFloat
      let new := if up then old + 1.0 else old - 1.0
      let _ ← assign n target (.number new)
      pure (.number (if before then new else old))
    | .call f args => callFunction n f args
    | .builtin f args => callBuiltin n f args
    | .fetch source target from_ => fetch n source target from_

/-- The key that subscripts make; several of them make one text. -/
def keyOf : Nat → List Expr → Work Key
  | 0, _ => fault "too deep"
  | n + 1, subs => do
    let f ← convert
    match ← evalAll n subs with
    | [v] => pure (v.toKey f)
    | values => do
      let parts := values.map fun v => v.toText f
      let s ← get
      pure (.text ((globalText s "SUBSEP" "\x1c").intercalate parts))

def assign : Nat → Expr → Value → Work Value
  | 0, _, _ => fault "too deep"
  | n + 1, target, v => do
    match target with
    | .name x => setName x v
    | .element a subs => do
      let key ← keyOf n subs
      setElement a key v
    | .field e => do
      let i := truncated (← eval n e).toFloat
      if i < 0 then fault "negative field index"
      setField i.toNat (v.toText (← convert))
    | .grouped e => do
      let _ ← assign n e v
    | _ => pure ()
    pure v

/-- The pattern that an expression stands for. -/
def patternOf : Nat → Expr → Work Regex
  | 0, _ => fault "too deep"
  | n + 1, e =>
    match e with
    | .pattern r => pure r
    | .grouped (.pattern r) => pure r
    | e => do
      let text := (← eval n e).toText (← convert)
      match readPattern text with
      | .ok r => pure r
      | .error why => fault ("regular expression compile failed (" ++ why ++ ")")

/-- What the parameters of a function stand for in a call. -/
def bindAll : Nat → List String → List Expr → Work (List (String × Slot))
  | 0, _, _ => fault "too deep"
  | _ + 1, [], _ => pure []
  | n + 1, p :: ps, args => do
    let s ← get
    let fresh := "\x00" ++ toString s.fresh
    let slot ← match args with
      | [] => do
        set { s with fresh := s.fresh + 1 }
        pure (Slot.undecided fresh)
      | .name v :: _ =>
        match s.frame.lookup v with
        | some slot => pure slot
        | none =>
          if s.arrays.any (·.1 == v) then pure (.array v)
          else if v == "NF" || s.bindings.any (·.1 == v) then do
            let x ← getName v
            pure (.value x)
          else pure (.undecided v)
      | e :: _ => do
        let x ← eval n e
        pure (.value x)
    let rest ← bindAll n ps (args.drop 1)
    pure ((p, slot) :: rest)

def callFunction : Nat → String → List Expr → Work Value
  | 0, _, _ => fault "too deep"
  | n + 1, f, args => do
    let s ← get
    match s.functions.find? (·.name == f) with
    | none => fault ("function " ++ f ++ " never defined")
    | some fn => do
      if fn.parameters.length < args.length then
        fault ("too many arguments in call to " ++ f)
      let slots ← bindAll n fn.parameters args
      let saved := (← get).frame
      modify fun s => { s with frame := slots }
      let _ ← chore (Asking.ask (.rest 1))
      let result ← tryCatch (do
        exec n fn.body
        pure Value.nothing) fun leap =>
          match leap with
          | .return v => pure v
          | leap => throw leap
      modify fun s => { s with frame := saved }
      pure result

def callBuiltin : Nat → String → List Expr → Work Value
  | 0, _, _ => fault "too deep"
  | n + 1, f, args => do
    let format_ ← convert
    let text (e : Expr) : Work String := do
      let v ← eval n e
      pure (v.toText format_)
    let float (e : Expr) : Work Float := do
      let v ← eval n e
      pure v.toFloat
    let unary (g : Float → Float) : Work Value := do
      match args with
      | [e] => do
        let x ← float e
        pure (.number (g x))
      | _ => fault ("wrong number of arguments in call to " ++ f)
    match f, args with
    | "length", [] => do
      let s ← get
      pure (.ofNat s.record.length)
    | "length", [.name a] => do
      let s ← get
      let real? : Option String := match s.frame.lookup a with
        | some (.array r) => some r
        | some _ => none
        | none => if s.arrays.any (·.1 == a) then some a else none
      match real? with
      | some r => pure (.ofNat (← withTable r fun t => (t.size, t)))
      | none => pure (.ofNat (← text (.name a)).length)
    | "length", [e] => do
      pure (.ofNat (← text e).length)
    | "substr", e :: from_ :: rest => do
      let s ← text e
      let start ← float from_
      let size : Work Float := match rest with
        | l :: _ => float l
        | [] => pure 1e15
      let size ← size
      let round (x : Float) : Int := truncated ((x + 0.5).floor)
      let first := round start
      let stop := if size.isInf then 1000000000000 else round (start + size)
      let low : Nat := if first < 1 then 0 else (first - 1).toNat
      let high : Nat := (stop - 1).toNat
      pure (.text (String.ofList ((s.toList.drop low).take (high - low))))
    | "index", [a, b] => do
      let s ← text a
      let t ← text b
      pure (.ofNat (indexIn s.toList t.toList (s.length + 1) s.toList 1))
    | "split", e :: .name a :: rest => do
      let s ← text e
      let st ← get
      let parts ← match rest with
        | [] => pure (splitText (globalText st "FS" " ") s)
        | .pattern r :: _ =>
          pure (if s.isEmpty then [] else splitAtPattern r (s.length + 1) s.toList [] [])
        | e :: _ => do
          let mark ← text e
          pure (splitText mark s)
      let real ← arrayName a
      setElements real (Table.ofList (parts.map Value.input))
      pure (.ofNat parts.length)
    | "sub", r :: new :: rest | "gsub", r :: new :: rest => do
      let r ← patternOf n r
      let new ← text new
      let target := rest.headD (.field (.number 0.0))
      let old ← text target
      let (result, count) := substitute r new (f == "gsub") (2 * old.length + 2) false (Regex.start old) [] 0
      if 0 < count then
        let _ ← assign n target (.text result)
      pure (.ofNat count)
    | "match", [e, r] => do
      let s ← text e
      let r ← patternOf n r
      match Regex.search? false r s.toList (Regex.start s) with
      | some (a, b) => do
        setName "RSTART" (.ofNat (a.place + 1))
        setName "RLENGTH" (.ofNat (b.place - a.place))
        pure (.ofNat (a.place + 1))
      | none => do
        setName "RSTART" (.number 0.0)
        setName "RLENGTH" (.number (-1.0))
        pure (.number 0.0)
    | "sprintf", e :: es => do
      let pattern ← text e
      let values ← evalAll n es
      match format format_ (pattern.length + 1) pattern.toList values [] with
      | (text, none) => pure (.text text)
      | (_, some why) => fault (why ++ " in sprintf(\"" ++ pattern ++ "\")")
    | "sin", _ => unary Float.sin
    | "cos", _ => unary Float.cos
    | "exp", _ => unary Float.exp
    | "log", _ => unary fun x => if x < 0.0 then senseless else Float.log x
    | "sqrt", _ => unary fun x => if x < 0.0 then senseless else Float.sqrt x
    | "int", _ => unary fun x => if x.isInf || x.isNaN then x else if x < 0.0 then x.ceil else x.floor
    | "atan2", [a, b] => do
      let x ← float a
      let y ← float b
      pure (.number (Float.atan2 x y))
    | "rand", [] => do
      let (drawn, chance) := (← get).chance.draw
      modify fun s => { s with chance := chance }
      pure (.number (Float.ofNat drawn / 2147483647.0))
    | "srand", _ => do
      let new ← match args with
        | e :: _ => eval n e
        | [] => do
          let now ← chore (Asking.ask .now)
          pure (match now with
            | .number k => Value.number (Float.ofNat (epoch + k / 1000000))
            | _ => .nothing)
      let s ← get
      set { s with
        seed := new, chance := Chance.ofSeed ((clamped new.toFloat % 4294967296).toNat) }
      pure s.seed
    | "tolower", [e] => do
      pure (.text (← text e).toLower)
    | "toupper", [e] => do
      pure (.text (← text e).toUpper)
    | "system", [e] => do
      let command ← text e
      flush
      let s ← get
      let pid ← chore (Doing.fork (startProgram s.title "/bin/sh" ["-c", command] s.environment))
      match ← chore (Asking.ask (.collect (some pid) true)) with
      | .ended _ status => pure (.number (endingNumber status))
      | _ => pure (.number 1.0)
    | "close", [e] => do
      let key ← text e
      let s ← get
      let chosen := (s.writers ++ s.readers).filter (·.key == key)
      set { s with
        writers := s.writers.filter (·.key != key), readers := s.readers.filter (·.key != key) }
      let mut result := if chosen.isEmpty then -1.0 else 0.0
      for x in chosen do result ← closeStream x
      pure (.number result)
    | "fflush", _ => do
      flush
      pure (.number 0.0)
    | _, _ => fault ("wrong number of arguments in call to " ++ f)

def evalAll : Nat → List Expr → Work (List Value)
  | 0, _ => fault "too deep"
  | _ + 1, [] => pure []
  | n + 1, e :: es => do
    let v ← eval n e
    let rest ← evalAll n es
    pure (v :: rest)

/-- Fetch a line from the inputs, from a file or from a program. -/
def fetch : Nat → Source → Option Expr → Option Expr → Work Value
  | 0, _, _, _ => fault "too deep"
  | n + 1, source, target, from_ => do
    let keep (text : String) : Work Unit := do
      match target with
      | some t =>
        let _ ← assign n t (.input text)
      | none => setRecord text
    match source, from_ with
    | .inputs, _ | _, none => do
      match ← nextRecord 10000 with
      | some text => do
        keep text
        pure (.number 1.0)
      | none => pure (.number 0.0)
    | source, some e => do
      let key := (← eval n e).toText (← convert)
      let s ← get
      let found ← match s.readers.find? (·.key == key) with
        | some x => pure (some x)
        | none => do
          let opened ← match source with
            | .program => do
              let x ← startPiped key true
              pure (some x)
            | _ =>
              if key == "-" || key == "/dev/stdin" then
                pure (some { key := key, descriptor := 0, process := none })
              else
                match ← chore (openFile key .reading) with
                | .ok d => pure (some { key := key, descriptor := d, process := none })
                | .error _ => pure none
          match opened with
          | some x => modify fun s => { s with readers := x :: s.readers }
          | none => pure ()
          pure opened
      match found with
      | none => pure (.number (-1.0))
      | some x =>
        let (line?, source) ← chore (x.source.next endless)
        modify fun s => { s with
          readers := s.readers.map fun y =>
            if y.key == key then { y with source := source } else y }
        match line? with
        | none => pure (.number 0.0)
        | some line => do
          keep (chomp line)
          pure (.number 1.0)

/-- The descriptor that a statement prints to. -/
def destination : Nat → Target → Work Nat
  | 0, _ => fault "too deep"
  | n + 1, t => do
    match t with
    | .output => pure 1
    | .file e append => do
      let path := (← eval n e).toText (← convert)
      writerOf path (openWriter path append)
    | .program e => do
      let command := (← eval n e).toText (← convert)
      writerOf command (startPiped command false)

def exec : Nat → Stmt → Work Unit
  | 0, _ => fault "too deep"
  | n + 1, s => do
    match s with
    | .expr e =>
      let _ ← eval n e
    | .print es t => do
      let values ← if es.isEmpty then do
          let r ← getField 0
          pure [r]
        else evalAll n es
      let st ← get
      let shown := values.map (·.toText (globalText st "OFMT" "%.6g"))
      let d ← destination n t
      emit d ((globalText st "OFS" " ").intercalate shown ++ globalText st "ORS" "\n")
    | .printFormat es t => do
      let values ← evalAll n es
      let f ← convert
      let pattern := (values.headD .nothing).toText f
      let d ← destination n t
      let (text, trouble?) := format f (pattern.length + 1) pattern.toList (values.drop 1) []
      emit d text
      match trouble? with
      | some why => fault (why ++ " in printf(\"" ++ pattern ++ "\")")
      | none => pure ()
    | .choose c a b => do
      if (← eval n c).isTrue then exec n a
      else
        match b with
        | some b => exec n b
        | none => pure ()
    | .while c body => repeatWhile n (some c) none body
    | .doWhile body c => do
      if ← once n body then repeatWhile n (some c) none body
    | .loop start c step body => do
      match start with
      | some s => exec n s
      | none => pure ()
      repeatWhile n c step body
    | .forEach v a body => do
      let real ← arrayName a
      let keys ← withTable real Table.keys
      forKeys n v keys body
    | .block ss => execAll n ss
    | .next => throw .next
    | .nextFile => throw .nextFile
    | .exit e => do
      match e with
      | some e => do
        let v ← eval n e
        modify fun s => { s with code := (truncated v.toFloat % 256).toNat }
      | none => pure ()
      throw .exit
    | .return e => do
      let v ← match e with
        | some e => eval n e
        | none => pure .nothing
      throw (.return v)
    | .break => throw .break
    | .continue => throw .continue
    | .delete a subs => do
      let real ← arrayName a
      match subs with
      | none => setElements real {}
      | some subs => do
        let key ← keyOf n subs
        withTable real fun t => ((), t.erase key)

def execAll : Nat → List Stmt → Work Unit
  | 0, _ => fault "too deep"
  | _ + 1, [] => pure ()
  | n + 1, s :: ss => do
    exec n s
    execAll n ss

/-- Run the body of a loop; says whether the loop goes on. -/
def once : Nat → Stmt → Work Bool
  | 0, _ => fault "too deep"
  | n + 1, body =>
    tryCatch (do
      exec n body
      pure true) fun leap =>
        match leap with
        | .break => pure false
        | .continue => pure true
        | leap => throw leap

def repeatWhile : Nat → Option Expr → Option Stmt → Stmt → Work Unit
  | 0, _, _, _ => fault "too long"
  | n + 1, c, step, body => do
    let _ ← chore (Asking.ask (.rest 1))
    let goes ← match c with
      | some c => do
        let v ← eval n c
        pure v.isTrue
      | none => pure true
    if goes then
      if ← once n body then do
        match step with
        | some s => exec n s
        | none => pure ()
        repeatWhile n c step body

def forKeys : Nat → String → List String → Stmt → Work Unit
  | 0, _, _, _ => fault "too deep"
  | _ + 1, _, [], _ => pure ()
  | n + 1, v, k :: ks, body => do
    setName v (.text k)
    if ← once n body then forKeys n v ks body

end

/-! ## Rules -/

/-- Go through the rules for a record. -/
def applyRules : Nat → List Rule → Work Unit
  | _, [] => pure ()
  | i, r :: rest => do
    let act (action : Option Stmt) : Work Unit :=
      exec endless (action.getD (.print [] .output))
    match r with
    | .each none action => act action
    | .each (some p) action => do
      let v ← eval endless p
      if v.isTrue then act action
    | .range start stop action => do
      let s ← get
      let begun ← if s.within.contains i then pure true else do
        let v ← eval endless start
        pure v.isTrue
      if begun then do
        let v ← eval endless stop
        let others := s.within.filter (· != i)
        modify fun s => { s with within := if v.isTrue then others else i :: others }
        act action
    | _ => pure ()
    applyRules (i + 1) rest

/-- Take record after record, until there is none left. -/
def goThrough (rules : List Rule) : Nat → Work Unit
  | 0 => pure ()
  | n + 1 => do
    match ← nextRecord 10000 with
    | none => pure ()
    | some text => do
      setRecord text
      tryCatch (applyRules 0 rules) fun leap =>
        match leap with
        | .next => pure ()
        | .nextFile => do
          let s ← get
          match s.input with
          | some x => if x.descriptor != 0 then chore (close x.descriptor)
          | none => pure ()
          modify fun s => { s with input := none, pieces := none }
        | leap => throw leap
      goThrough rules n

/-- Run a script: what comes first, the records, and what comes last even after an exit. -/
def runScript (script : Script) : Work Unit := do
  let firsts := script.rules.filterMap fun r => match r with
    | .first a => some a
    | _ => none
  let lasts := script.rules.filterMap fun r => match r with
    | .last a => some a
    | _ => none
  let reads := script.rules.any fun r => match r with
    | .first _ => false
    | _ => true
  tryCatch (do
    for a in firsts do exec endless a
    if reads then goThrough script.rules endless) fun leap =>
      match leap with
      | .exit => pure ()
      | leap => throw leap
  for a in lasts do exec endless a

/-- Close what is open and wait for the programs. -/
def finishRun (s : State) : Chore Unit := do
  for x in s.writers ++ s.readers do
    if 2 < x.descriptor then close x.descriptor
    match x.process with
    | some pid =>
      let _ ← Asking.ask (.collect (some pid) true)
    | none => pure ()
  say (String.join s.held.reverse)

end Records

open Machine Records in
/-- Run a script over the records of the inputs, under the name by which it was called. -/
def processRecords (title : String) (args environment : List String) : Chore Nat := do
  let usage (code : Nat) : Chore Nat := do
    warn ("Usage: " ++ title ++ " [Options] [Program] [file ...]")
    pure code
  let rec options : Nat → List String → List (String × String) → List String → Option String →
      Except Nat (List (String × String) × List String × Option String × List String)
    | 0, _, _, _, _ => .error 2
    | n + 1, args, assigned, files, mark =>
      match args with
      | [] => .ok (assigned.reverse, files.reverse, mark, [])
      | a :: rest =>
        let withValue (letter : Char) (use : String → List String →
            Except Nat (List (String × String) × List String × Option String × List String)) :
            Except Nat (List (String × String) × List String × Option String × List String) :=
          if a == "-" ++ letter.toString then
            match rest with
            | v :: rest => use v rest
            | [] => .error 2
          else use (dropChars 2 a) rest
        if a == "--" then .ok (assigned.reverse, files.reverse, mark, rest)
        else if a == "--version" || a == "--help" || a == "-h" then .error 0
        else if a.startsWith "--" || a == "-" || !a.startsWith "-" then
          if a.startsWith "--" then .error 2
          else .ok (assigned.reverse, files.reverse, mark, a :: rest)
        else if a.startsWith "-f" then
          withValue 'f' fun v rest => options n rest assigned (v :: files) mark
        else if a.startsWith "-F" then
          withValue 'F' fun v rest => options n rest assigned files (some v)
        else if a.startsWith "-v" then
          withValue 'v' fun v rest =>
            match assignment? v with
            | some p => options n rest (p :: assigned) files mark
            | none => .error 2
        else if a.startsWith "-W" then
          withValue 'W' fun v rest =>
            if v.startsWith "v" || v.startsWith "h" || v.startsWith "u" then .error 0
            else options n rest assigned files mark
        else .error 2
  match options (args.length + 1) args [] [] none with
  | .error 0 => do
    say "mawk 1.3.4 20200120\n"
    finish 0
  | .error code => usage code
  | .ok (assigned, files, mark, rest) => do
    let mut texts : List String := []
    for f in files do
      match ← (if f == "-" then pure (.ok 0) else openFile f .reading) with
      | .ok d => do
        let t ← readAll d
        texts := texts ++ [t]
      | .error why => do
        warn (title ++ ": cannot open " ++ f ++ " (" ++ why.text ++ ")")
        return 2
    if files.isEmpty && rest.isEmpty then usage 0
    else
      let (text, operands) :=
        if files.isEmpty then (rest.headD "", rest.drop 1) else ("\n".intercalate texts, rest)
      match readScript text with
      | none => do
        warn (title ++ ": line 1: syntax error")
        pure 2
      | some script => do
        let markValue (m : String) : Value :=
          match outsideValue (if m == "t" then "\\t" else m) with
          | .input s => .text s
          | v => v
        let bindings : List (String × Value) :=
          (assigned.map fun p => (p.1, outsideValue p.2)).reverse ++
          [("FS", markValue (mark.getD " ")), ("ARGC", .ofNat (operands.length + 1)),
            ("NR", .number 0.0), ("FNR", .number 0.0), ("RSTART", .number 0.0),
            ("RLENGTH", .number (-1.0)), ("RS", .text "\n"), ("ORS", .text "\n"),
            ("OFS", .text " "), ("SUBSEP", .text "\x1c"), ("CONVFMT", .text "%.6g"),
            ("OFMT", .text "%.6g")]
        let given := (environment.filterMap (splitAtChar? '=')).foldl
          (fun (t : Table) p => t.put (.text p.1) (.input p.2)) {}
        let arguments := (title :: operands).zipIdx.foldl
          (fun (t : Table) p => t.put (.whole p.2) (.input p.1)) {}
        let start : State := {
          title := title, functions := script.functions, environment := environment
          bindings := bindings, arrays := [("ENVIRON", given), ("ARGV", arguments)] }
        let (_, s) ← (runScript script).run.run start
        finishRun s
        finishWith 2 s.code

end StreamSupervisor.Tool
