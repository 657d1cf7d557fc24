import StreamSupervisor.Shell.Builtin.Basic

/-! # Builtins for variables

Setting, marking and forgetting variables, the arguments and the options of the shell, and
reading values from an input or from arguments.
-/

namespace StreamSupervisor.Shell

open Machine

/-- Set a variable as its kind demands: a number takes the value of an expression. -/
def store (name : String) (key : Option String) (value : String) (append exported : Bool) :
    Work Unit := do
  let s ← get
  let name := if s.isRich then s.resolve State.referenceDepth name else name
  let old := (s.binding? name).getD {}
  let before := if append then
      (match key with
        | some k => (State.elementsOf old).lookup k
        | none => State.scalar old).getD ""
    else ""
  if old.isInteger then do
    let v ← calculate value
    let sum := if append then (before.toInt?.getD 0) + v else v
    assign name key (toString sum) exported
  else assign name key (before ++ value) exported

def checkName (name : String) : Work Unit := do
  if !isName name then misuse (name ++ ": bad variable name")

/-- A name with the value behind an equals sign, if there is one. -/
def nameAndValue (arg : String) : String × Option String :=
  match splitAtChar? '=' arg with
  | some (name, value) => (name, some value)
  | none => (arg, none)

/-- A name without the sign that adds to an old value, and whether it was there. -/
def dropPlus (name : String) (hasValue : Bool) : String × Bool :=
  if name.endsWith "+" && hasValue then ((name.dropEnd 1).toString, true) else (name, false)

def listVariables (front : String) (chosen : Variable → Bool) : Work Nat := do
  let s ← get
  let shown := s.bindings.filter fun v => chosen v.2
  let shown := shown.mergeSort fun a b => !bytesBefore b.1 a.1
  sayOut (String.join (shown.map fun v =>
    if s.isRich then
      if front.isEmpty then
        v.1 ++ "=" ++ (match v.2.elements with
          | some es => shownElements v.2.isKeyed es
          | none => Quoting.ifNeeded (v.2.value.getD "")) ++ "\n"
      else declarationOf v.1 v.2 ++ "\n"
    else
      front ++ v.1 ++ (match State.scalar v.2 with
        | some x => "=" ++ Quoting.singleDoubled x
        | none => "") ++ "\n"))

/-- The text that defines a function. -/
def functionText (s : State) (name : String) (f : Function) : String :=
  shownFunction s.linesOf name f.body ++ "\n"

/-- Show functions, or only their names; the status tells whether all are known. -/
def listFunctions (names : List String) (namesOnly : Bool) : Work Nat := do
  let s ← get
  let mut code := 0
  let sorted := s.functions.mergeSort fun a b => !bytesBefore b.1 a.1
  if names.isEmpty then
    sayOut (String.join (sorted.map fun f =>
      if namesOnly then "declare -f " ++ f.1 ++ "\n" else functionText s f.1 f.2))
  else do
    for name in names do
      match s.functions.lookup name with
      | some f =>
        let _ ← sayOut (if namesOnly then name ++ "\n" else functionText s name f)
      | none => code := 1
    pure code

/-! ## Marks -/

/-- Mark variables, which may be set at the same time. -/
def markVariables (args : List String) (mark : Variable → Variable) : Work Nat := do
  let s ← get
  let mut code := 0
  for a in args do
    let (name, value) := nameAndValue a
    let (name, append) := if s.isRich then dropPlus name value.isSome else (name, false)
    if !isName name then
      if s.isRich then do
        complain (s.running ++ ": \x60" ++ a ++ "\x27: not a valid identifier")
        code := 1
      else misuse (name ++ ": bad variable name")
    else do
      let name := if s.isRich then s.resolve State.referenceDepth name else name
      match value with
      | some v =>
        if s.isRich && s.isProtected name then do
          complain (name ++ ": readonly variable")
          code := 1
        else store name none v append false
      | none => pure ()
      modify fun s => s.setVariable name (mark ((s.binding? name).getD {}))
  pure code

def exportVariables (args : List String) : Work Nat := do
  let s ← get
  let (chosen, names) ← builtinOptions (if s.isRich then "npf" else "p") args
  if Tool.has chosen ["f"] then do
    let known := names.filter fun n => s.functions.any (·.1 == n)
    set { s with
      functions := s.functions.map fun (f : String × Function) =>
        if known.contains f.1 then (f.1, { f.2 with exported := !Tool.has chosen ["n"] }) else f }
    pure (if known.length == names.length then 0 else 1)
  else if names.isEmpty || Tool.has chosen ["p"] && !s.isRich then
    listVariables "export " (·.exported)
  else markVariables names fun v => { v with exported := !Tool.has chosen ["n"] }

def protectVariables (args : List String) : Work Nat := do
  let s ← get
  let (chosen, names) ← builtinOptions (if s.isRich then "aApf" else "p") args
  if Tool.has chosen ["f"] then
    pure (if names.all fun n => s.functions.any (·.1 == n) then 0 else 1)
  else if names.isEmpty || Tool.has chosen ["p"] && !s.isRich then
    listVariables "readonly " (·.readOnly)
  else markVariables names fun v => { v with readOnly := true }

def unsetNames (args : List String) : Work Nat := do
  let s ← get
  let (chosen, names) ← builtinOptions (if s.isRich then "vfn" else "vf") args
  let dropFunction (name : String) : Work Unit := modify fun s =>
    { s with functions := s.functions.filter (·.1 != name) }
  let mut code := 0
  for name in names do
    let s ← get
    if Tool.has chosen ["f"] then dropFunction name
    else
      match (if s.isRich then splitIndex? name else none) with
      | some (array, index) => do
        let array := s.resolve State.referenceDepth array
        match s.binding? array with
        | some v =>
          if v.readOnly then do
            complain (array ++ ": cannot unset: readonly variable")
            code := 1
          else if index == "@" || index == "*" then
            if v.isKeyed then set (s.setVariable array { v with elements := some [] })
            else set (s.dropVariable array)
          else
            match ← (keyFor array index).attempt with
            | .ok key =>
              modify fun s => s.setVariable array { v with
                elements := some ((State.elementsOf v).filter (·.1 != key)), value := none }
            | .error (.abandon _) => code := 1
            | .error stop => throw stop
        | none => pure ()
      | none =>
        let name := if s.isRich && !Tool.has chosen ["n"] then
            s.resolve State.referenceDepth name
          else name
        if !isName name then
          if s.isRich then do
            if s.functions.any (·.1 == name) then dropFunction name
            else if Tool.has chosen ["v"] then do
              complain ("unset: \x60" ++ name ++ "\x27: not a valid identifier")
              code := 1
          else misuse (name ++ ": bad variable name")
        else if (s.binding? name).isSome || s.isRich && keptVariables.contains name then do
          let ok ← unsetVariable name
          if !ok then
            if s.isRich then code := 1 else throw (.fault 2)
        else if s.isRich && !Tool.has chosen ["v"] then dropFunction name
  pure code

/-! ## Arguments and options -/

def listOptions (asCommands : Bool) : Work Nat := do
  let s ← get
  let title := if s.isRich || asCommands then "" else "Current option settings\n"
  sayOut (title ++ String.join ((optionNames s.isRich).map fun o =>
    if asCommands then "set " ++ (if s.isOn o.1 then "-o " else "+o ") ++ o.1 ++ "\n"
    else filledUp (if s.isRich then 15 else 16) o.1 ++ (if s.isRich then "\t" else "") ++
      (if s.isOn o.1 then "on" else "off") ++ "\n"))

def setShell (args : List String) : Work Nat := do
  let s ← get
  if args.isEmpty then listVariables "" fun v => (State.scalar v).isSome
  else
    match readOptions false (args.length + 1) args { shell := s } with
    | .error (.named name) =>
      if s.isRich then do
        complain ("set: " ++ (UnknownOption.named name).message true)
        pure 2
      else misuse ((UnknownOption.named name).message false)
    | .error why => misuse (why.message s.isRich)
    | .ok r => do
      if s.isRich && s.has 'r' && !r.shell.has 'r' then do
        complain "set: restricted"
        return 1
      let s := r.shell
      let s :=
        if r.ending == some "-" then (s.setLetter 'x' false).setLetter 'v' false else s
      let s :=
        if r.ending == some "--" || !r.rest.isEmpty then
          { s with arguments := r.rest, optionIndex := if s.isRich then s.optionIndex else 1
                   optionPlace := if s.isRich then s.optionPlace else 0 }
        else s
      set s
      if r.lists then listOptions (args.head? == some "+o") else pure 0

def shift (args : List String) : Work Nat := do
  let s ← get
  let args := match args with
    | "--" :: rest => rest
    | args => args
  if s.isRich then
    match args with
    | [] => go s 1
    | [a] =>
      match Machine.number? 10 a with
      | some n => if n < 0 then pure 1 else go s n.toNat
      | none => do
        complain ("shift: " ++ a ++ ": numeric argument required")
        pure 1
    | _ => pure 1
  else
    match args with
    | [] => go s 1
    | a :: _ => do
      let n ← numberArgument a
      go s n
where
  go (s : State) (n : Nat) : Work Nat := do
    if s.arguments.length < n then
      if s.isRich then pure 1 else misuse "can't shift that many"
    else do
      set { s with
        arguments := s.arguments.drop n
        optionIndex := if s.isRich then s.optionIndex else 1
        optionPlace := if s.isRich then s.optionPlace else 0 }
      pure 0

/-! ## Local variables -/

def localVariables (args : List String) : Work Nat := do
  let s ← get
  if s.hidden.isEmpty then misuse "not in a function"
  else do
    for a in args do
      if a == "-" then hideOptions
      else do
        let (name, value) := nameAndValue a
        checkName name
        hide name
        match value with
        | some v => assign name none v false
        | none => pure ()
    pure 0

/-- Set the variable that a name stands for outside all functions. -/
def setGlobal (name : String) (change : Variable → Variable) : Work Unit := modify fun s =>
  let isHidden (frame : List (String × Option Variable)) : Bool := frame.any (·.1 == name)
  match (s.hidden.reverse.findIdx? isHidden) with
  | none => s.setVariable name (change ((s.binding? name).getD {}))
  | some i =>
    { s with
      hidden := (s.hidden.reverse.zipIdx.map fun frame =>
        if frame.2 == i then
          frame.1.map fun e => if e.1 == name then (name, some (change (e.2.getD {}))) else e
        else frame.1).reverse }

/-- What the letters of a declaration make of a variable. -/
def declared (ons offs : List Char) (old : Variable) : Variable :=
  let isList := ons.contains 'a' || ons.contains 'A'
  { old with
    isReference := if offs.contains 'n' then false else ons.contains 'n' || old.isReference
    casing :=
      match ons.filter (fun c => "ulc".toList.contains c) with
      | [] => if offs.any (fun c => "ulc".toList.contains c) then none else old.casing
      | c :: cs =>
        if cs.any (· != c) then none
        else if c == 'u' then some .upper else if c == 'l' then some .lower else some .capital
    isInteger := (old.isInteger || ons.contains 'i') && !offs.contains 'i'
    exported := (old.exported || ons.contains 'x') && !offs.contains 'x'
    isKeyed := old.isKeyed || ons.contains 'A'
    isBare := old.isBare || isList && old.elements.isNone && old.value.isNone
    elements :=
      if isList && old.elements.isNone then some (State.elementsOf old) else old.elements }

/-- Declare one variable, which may be given a value; the status tells whether that is
possible. -/
def declareOne (ons offs : List Char) (inFunction : Bool) (arg : String) : Work Nat := do
  let (place, value) := nameAndValue arg
  let (place, append) := dropPlus place value.isSome
  let (name, index) : String × Option String :=
    match splitIndex? place with
    | some (name, index) => (name, some index)
    | none => (place, none)
  if !isName name then do
    complain ((← get).running ++ ": \x60" ++ arg ++ "\x27: not a valid identifier")
    pure 1
  else do
    let s ← get
    let isReference := ons.contains 'n' || offs.contains 'n'
    let name := if isReference || inFunction then name
      else s.resolve State.referenceDepth name
    let isProtected := s.isProtected name
    if inFunction && !isProtected then do
      let known := (s.hidden.headD []).any (·.1 == name)
      hide name
      if !known then do
        modify (·.dropVariable name)
        if name == "OPTIND" then
          modify fun t => { t with optionIndex := 1, optionPlace := 0 }
    let s ← get
    let old := (s.binding? name).getD {}
    let becomesList := (old.isKeyed && ons.contains 'a') ||
      (old.elements.isSome && !old.isKeyed && ons.contains 'A')
    if isProtected && (value.isSome || offs.contains 'r' || inFunction) then do
      complain ((← get).running ++ ": " ++ name ++ ": readonly variable")
      pure 1
    else if becomesList then do
      complain (name ++ ": cannot convert")
      pure 1
    else if old.elements.isSome && (offs.contains 'a' || offs.contains 'A') then do
      complain (name ++ ": cannot destroy array variables in this way")
      pure 1
    else do
      let isGlobal := ons.contains 'g' && !s.hidden.isEmpty
      let ons := if index.isSome && !ons.contains 'A' && !ons.contains 'a' && old.elements.isNone
        then 'a' :: ons else ons
      if isGlobal then
        setGlobal name fun old =>
          let v := declared ons offs old
          match value with
          | some x => if v.elements.isSome then
              { v with elements := some (insertElement v.isKeyed "0" x []), isBare := false }
            else { v with value := some x }
          | none => v
      else do
        set (s.setVariable name (declared ons offs old))
        match value with
        | some v =>
          if ons.contains 'n' then
            modify fun t => t.setVariable name
              { (t.binding? name).getD {} with value := some v }
          else do
            let key ← match index with
              | some i => do
                let k ← keyFor name i
                pure (some k)
              | none => pure none
            store name key v append false
        | none => pure ()
      if ons.contains 'r' then
        modify fun t => t.setVariable name { (t.binding? name).getD {} with readOnly := true }
      pure 0

/-- Declare variables with attributes in the rich shell. -/
def declareVariables (isLocal : Bool) (args : List String) : Work Nat := do
  let s ← get
  if isLocal && s.functionDepth = 0 then do
    complain "local: can only be used in a function"
    pure 1
  else do
    let isSwitch (a : String) : Bool :=
      1 < a.length && (a.startsWith "-" || a.startsWith "+")
    let switches := args.takeWhile fun a => isSwitch a && a != "--"
    let names := args.drop switches.length
    let names := if names.head? == some "--" then names.drop 1 else names
    let ons := (switches.filter (·.startsWith "-")).flatMap fun a => a.toList.drop 1
    let offs := (switches.filter (·.startsWith "+")).flatMap fun a => a.toList.drop 1
    let isChosen (v : Variable) : Bool :=
      (!ons.contains 'x' || v.exported) && (!ons.contains 'r' || v.readOnly) &&
        (!ons.contains 'i' || v.isInteger) && (!ons.contains 'n' || v.isReference) &&
        (!ons.contains 'a' || v.elements.isSome && !v.isKeyed) && (!ons.contains 'A' || v.isKeyed)
    if (ons ++ offs).any fun c => !"aAcfFgiIlnprtux".toList.contains c then
      misuse (switches.headD "" ++ ": invalid option")
    else if ons.contains 'f' || ons.contains 'F' then listFunctions names (ons.contains 'F')
    else if names.isEmpty then
      listVariables (if ons.isEmpty then "" else "declare ") fun v =>
        (ons.contains 'p' || (State.scalar v).isSome || v.elements.isSome) && isChosen v
    else if ons.contains 'p' then do
      let mut code := 0
      for n in names do
        match (if ons.contains 'n' then s.binding? n else s.view? n) with
        | some v =>
          let shown := if v.isReference then v else (s.binding? n).getD v
          let _ ← sayOut (declarationOf n shown ++ "\n")
        | none => do
          complain (n ++ ": not found")
          code := 1
      pure code
    else do
      let inFunction := s.functionDepth != 0 && (isLocal || !ons.contains 'g')
      let mut code := 0
      for a in names do
        if isLocal && a == "-" then hideOptions
        else do
          let c ← declareOne ons offs inFunction a
          if c != 0 then code := c
      pure code

def letExpressions (args : List String) : Work Nat := do
  let mut last : Int := 0
  if args.isEmpty then do
    complain "let: expression expected"
    pure 1
  else do
    for a in args do
      match ← (calculate a).attempt with
      | .ok v => last := v
      | .error (.abandon _) => return 1
      | .error stop => throw stop
    pure (if last = 0 then 1 else 0)

/-! ## Reading -/

/-- The characters of a line that have been read, each with whether a backslash stood
before it. -/
abbrev Marked := List (Char × Bool)

/-- Take in what was read: the line so far in reverse, whether a backslash is open, and
whether the line has ended. -/
def takeRead (raw : Bool) (mark : Char) :
    List Char → Bool → Marked → Marked × Bool × Bool
  | [], open_, acc => (acc, open_, false)
  | c :: rest, open_, acc =>
    if c == '\x00' && c != mark then takeRead raw mark rest open_ acc
    else if open_ then
      if c == '\n' then takeRead raw mark rest false acc
      else takeRead raw mark rest false ((c, true) :: acc)
    else if c == '\\' && !raw then takeRead raw mark rest true acc
    else if c == mark then (acc, false, true)
    else takeRead raw mark rest false ((c, false) :: acc)

/-- Read a line, and say whether its end was met. -/
def readMarked (fd : Nat) (raw : Bool) (mark : Char) :
    Nat → Bool → Marked → Work (Marked × Bool)
  | 0, _, acc => pure (acc.reverse, false)
  | n + 1, open_, acc => do
    match ← Asking.ask (.readUntil fd mark) with
    | .text t =>
      if t.isEmpty then pure (acc.reverse, false)
      else
        match takeRead raw mark t.toList open_ acc with
        | (acc, open_, ended) =>
          if ended then pure (acc.reverse, true) else readMarked fd raw mark n open_ acc
    | .interrupted => do
      breathe
      let s ← get
      if s.arrived.isEmpty then readMarked fd raw mark n open_ acc
      else pure (acc.reverse, false)
    | _ => pure (acc.reverse, false)

section Fields

variable (separators : List Char)

def isSeparator (c : Char × Bool) : Bool := !c.2 && separators.contains c.1

def isBlankSeparator (c : Char × Bool) : Bool :=
  isSeparator separators c && (c.1 == ' ' || c.1 == '\t' || c.1 == '\n')

def markedText (cs : Marked) : String := String.ofList (cs.map (·.1))

def dropBlanks (cs : Marked) : Marked := cs.dropWhile (isBlankSeparator separators)

/-- What stands behind the separator at the front. -/
def dropSeparator (cs : Marked) : Marked :=
  match dropBlanks separators cs with
  | c :: rest =>
    if isSeparator separators c then dropBlanks separators rest else c :: rest
  | [] => []

/-- Cut a line into so many fields, of which the last takes all that is left. -/
def cutFields : Nat → Marked → List String
  | 0, _ => []
  | n + 1, cs =>
    let cs := dropBlanks separators cs
    let word := cs.takeWhile fun c => !isSeparator separators c
    let after := dropSeparator separators (cs.drop word.length)
    if n = 0 then
      if after.isEmpty then [markedText word]
      else [markedText (cs.reverse.dropWhile (isBlankSeparator separators)).reverse]
    else markedText word :: cutFields n after

end Fields

/-- All fields of a line. -/
def allFields (separators : List Char) : Nat → Marked → List String
  | 0, _ => []
  | n + 1, cs =>
    let cs := dropBlanks separators cs
    if cs.isEmpty then []
    else
      let word := cs.takeWhile fun c => !isSeparator separators c
      markedText word :: allFields separators n (dropSeparator separators (cs.drop word.length))

/-- The microseconds in a number of seconds that may have a fraction. -/
def microseconds? (text : String) : Option Nat :=
  let (whole, fraction) := (splitAtChar? '.' text).getD (text, "")
  if (whole.isEmpty && fraction.isEmpty) || !(whole ++ fraction).all isDigit then none
  else
    let ds := (fraction ++ "000000").toList.take 6
    some ((whole.toNat?.getD 0) * 1000000 + ((String.ofList ds).toNat?.getD 0))

/-- How a line is read by the rich shell: from where, up to what, how much of it, and when it
is given up. -/
structure Asked where
  descriptor : Nat := 0
  raw : Bool := false
  mark : Char := '\n'
  most : Option Nat := none
  /-- Whether the mark is read like any other character. -/
  exact : Bool := false
  deadline : Option Nat := none

/-- Read character by character, for as long as there is time; the flag says whether the
line was ended, or the time. -/
def readTimed (q : Asked) : Nat → Bool → Marked → Work (Marked × Bool × Bool)
  | 0, _, acc => pure (acc.reverse, false, false)
  | n + 1, open_, acc => do
    if q.most.any (· ≤ acc.length) then pure (acc.reverse, true, false)
    else do
      let inTime ← match q.deadline with
        | none => pure true
        | some t => do
          tellTime
          let now := (← get).moment
          match ← Asking.ask (.await q.descriptor (t - now)) with
          | .nothing => pure false
          | _ => pure true
      if !inTime then pure (acc.reverse, false, true)
      else
        match ← Asking.ask (.read q.descriptor 1) with
        | .text t =>
          match t.toList with
          | [c] =>
            if c == '\x00' && c != q.mark then readTimed q n open_ acc
            else if open_ then
              if c == '\n' then readTimed q n false acc
              else readTimed q n false ((c, true) :: acc)
            else if c == '\\' && !q.raw then readTimed q n true acc
            else if c == q.mark && !q.exact then pure (acc.reverse, true, false)
            else readTimed q n false ((c, false) :: acc)
          | _ => pure (acc.reverse, false, false)
        | .interrupted => do
          breathe
          let s ← get
          if s.arrived.isEmpty then readTimed q n open_ acc
          else pure (acc.reverse, false, false)
        | _ => pure (acc.reverse, false, false)

def readVariables (args : List String) : Work Nat := do
  let s ← get
  let (chosen, names) ←
    builtinOptions (if s.isRich then "a:d:eEi:n:N:p:rst:u:" else "p:r") args
  let raw := Tool.has chosen ["r"]
  let number (letter : String) : Option (Option Nat) :=
    (Tool.valueOf? chosen [letter]).map (·.toNat?)
  let time := (Tool.valueOf? chosen ["t"]).map microseconds?
  if names.isEmpty && !s.isRich then misuse "arg count"
  else if names.any fun n => if s.isRich then !isPlace n else !isName n then
    if s.isRich then do
      let wrong := (names.find? fun n => !isPlace n).getD ""
      complain ("read: \x60" ++ wrong ++ "\x27: not a valid identifier")
      pure 1
    else misuse ((names.find? fun n => !isName n).getD "" ++ ": bad variable name")
  else if [number "u", number "n", number "N"].contains (some none) || time == some none then do
    complain "read: invalid specification"
    pure 1
  else do
    let fd := ((number "u").bind id).getD 0
    let isOpen ← match ← Asking.ask (.inspectOpen fd) with
      | .refused _ => pure false
      | _ => pure true
    if !isOpen && s.isRich then do
      complain "read: invalid file descriptor"
      return 1
    if time == some (some 0) then
      match ← Asking.ask (.await fd 0) with
      | .done => return 0
      | _ => return 1
    let mark := match Tool.valueOf? chosen ["d"] with
      | some d => (d.toList.head?).getD '\x00'
      | none => '\n'
    let most := ((number "n").orElse fun _ => number "N").bind id
    tellTime
    let now := (← get).moment
    let deadline := (time.bind id).map (now + ·)
    let (line, ended, late) ←
      if most.isSome || deadline.isSome then
        readTimed { descriptor := fd, raw := raw, mark := mark, most := most
                    exact := Tool.has chosen ["N"], deadline := deadline } endless false []
      else do
        let (line, ended) ← readMarked fd raw mark endless false []
        pure (line, ended, false)
    let s ← get
    let separators := if Tool.has chosen ["N"] then [] else s.separators.toList
    match Tool.valueOf? chosen ["a"], names with
    | some array, _ => do
      if s.isProtected array then do
        complain (array ++ ": readonly variable")
        return 1
      let fields := allFields separators (line.length + 1) line
      set (s.setVariable array (State.listOf fields))
    | none, [] => assign "REPLY" none (markedText line) false
    | none, names => do
      let fields := cutFields separators names.length line
      for f in names.zip fields do
        let (name, key) ← placeNamed f.1
        store name key f.2 false false
    pure (if late then 142 else if ended then 0 else 1)

/-- The stretches of a text up to a mark each, with the marks or without them. -/
def cutAt (mark : Char) (keeps : Bool) (text : String) : List String :=
  let pieces := text.splitOn mark.toString
  let whole := pieces.dropLast
  let last := pieces.getLast?.getD ""
  (if keeps then whole.map (·.push mark) else whole) ++ (if last.isEmpty then [] else [last])

/-- Read so many lines as they are, with their ends. -/
def takeLinesFrom (fd : Nat) (mark : Char) : Nat → List String → Work (List String)
  | 0, acc => pure acc.reverse
  | n + 1, acc => do
    let (line, ended) ← readMarked fd true mark endless false []
    let text := markedText line
    if ended then takeLinesFrom fd mark n ((text.push mark) :: acc)
    else pure (if text.isEmpty then acc else text :: acc).reverse

/-- Read lines into a list. Every so many lines a command is told about the one that comes
next. -/
def readLines (call : String → Work Unit) (args : List String) : Work Nat := do
  let (chosen, names) ← builtinOptions "d:n:O:s:tu:C:c:" args
  let number (letter : String) : Option (Option Nat) :=
    (Tool.valueOf? chosen [letter]).map (·.toNat?)
  let name := names.headD "MAPFILE"
  if ["c", "n", "O", "s", "u"].any fun l => number l == some none then do
    complain "mapfile: invalid number"
    pure 1
  else if !isName name then do
    complain "mapfile: not a valid identifier"
    pure 1
  else if (← get).isProtected name then do
    complain (name ++ ": readonly variable")
    pure 1
  else do
    let fd := ((number "u").bind id).getD 0
    let mark := match Tool.valueOf? chosen ["d"] with
      | some d => (d.toList.head?).getD '\x00'
      | none => '\n'
    let passed := ((number "s").bind id).getD 0
    let keeps := !Tool.has chosen ["t"]
    let ls ← match (number "n").bind id with
      | some (n + 1) => do
        let ls ← takeLinesFrom fd mark (passed + n + 1) []
        pure (cutAt mark keeps (String.join ls))
      | _ => do
        let text ← readAll fd
        pure (cutAt mark keeps text)
    let ls := ls.drop passed
    let s ← get
    let old := (s.binding? name).getD {}
    let (first, kept) := match (number "O").bind id with
      | some n => (n, State.elementsOf old)
      | none => (0, [])
    let new := ls.zipIdx.map fun e => (toString (first + e.2), e.1)
    match Tool.valueOf? chosen ["C"] with
    | none => pure ()
    | some command => do
      let every := Nat.max 1 (((number "c").bind id).getD 5000)
      for e in new.zipIdx do
        if (e.2 + 1) % every = 0 then
          call (command ++ " " ++ e.1.1 ++ " " ++ Quoting.reusable e.1.2)
    let s ← get
    let all := if kept.isEmpty then new
      else new.foldl (fun es e => insertElement false e.1 e.2 es) kept
    set (s.setVariable name { old with elements := some all, value := none, isBare := false })
    pure 0

/-! ## Options among arguments -/

/-- Read the next option from the arguments; the status tells whether there was one. -/
def getOptions (args : List String) : Work Nat := do
  let s ← get
  let args := match args with
    | "--" :: rest => rest
    | args => args
  match args with
  | spec :: name :: given => do
    let given := if given.isEmpty then s.arguments else given
    let reset := given.length + 1 < s.optionIndex
    let index := if reset then 1 else s.optionIndex
    let place := if reset then 0 else s.optionPlace
    let current := (given[index - 2]?).getD ""
    let pending : List Char :=
      if index ≤ 1 || place = 0 || current.length < place then [] else current.toList.drop place
    let silent := spec.startsWith ":"
    let finish (index place : Nat) (letter : Char) (code : Nat) : Work Nat := do
      let shown := if s.isRich && place != 0 then index - 1 else index
      assign "OPTIND" none (toString shown) false
      if s.isRich && !isName name then pure 1
      else do
        assign name none letter.toString false
        modify fun s => { s with optionIndex := index, optionPlace := place }
        pure code
    let step (letter : Char) (rest : List Char) (index place : Nat) : Work Nat := do
      /- The place after this letter, if more letters stand behind it. -/
      let onward := if rest.isEmpty then 0 else place + 1
      let known := if letter == ':' then none
        else Tool.Options.arityOf (spec.toList.dropWhile (· == ':')) letter
      match known with
      | none => do
        if silent then assign "OPTARG" none letter.toString false
        else do
          if s.isRich then
            let _ ← write 2 (s.title ++ ": illegal option -- " ++ letter.toString ++ "\n")
          else
            let _ ← write 2 ("Illegal option -" ++ letter.toString ++ "\n")
          let _ ← unsetVariable "OPTARG"
        finish index onward '?' 0
      | some .none => do
        if s.isRich then do
          let _ ← unsetVariable "OPTARG"
        else assign "OPTARG" none "" false
        finish index onward letter 0
      | some _ =>
        if !rest.isEmpty then do
          assign "OPTARG" none (String.ofList rest) false
          finish index 0 letter 0
        else
          match given[index - 1]? with
          | some value => do
            assign "OPTARG" none value false
            finish (index + 1) 0 letter 0
          | none =>
            if silent then do
              assign "OPTARG" none letter.toString false
              finish index 0 ':' 0
            else do
              if s.isRich then
                let _ ← write 2 (s.title ++ ": option requires an argument -- " ++
                  letter.toString ++ "\n")
              else
                let _ ← write 2 ("No arg for -" ++ letter.toString ++ " option\n")
              let _ ← unsetVariable "OPTARG"
              finish index 0 '?' 0
    match pending with
    | c :: rest => step c rest index place
    | [] =>
      match (given[index - 1]?).map (·.toList) with
      | some ['-', '-'] => finish (index + 1) 0 '?' 1
      | some ('-' :: c :: rest) => step c rest (index + 1) 1
      | _ => finish index 0 '?' 1
  | _ => misuse (if s.isRich then "" else "Usage: getopts optstring var [arg...]")

end StreamSupervisor.Shell
