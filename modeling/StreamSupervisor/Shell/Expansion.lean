import StreamSupervisor.Shell.Arithmetic
import StreamSupervisor.Shell.Declaration
import StreamSupervisor.Text.Regex
import StreamSupervisor.Tool.Calendar

/-! # Expansion

Words become texts: parameters, outputs of commands and sums are put in, what was not
quoted is split into fields, and patterns become the names of the files they match.
-/

namespace StreamSupervisor.Shell

open Machine

/-- A piece of an expanded word. -/
inductive Piece where
  /-- Quoted text. -/
  | fixed (s : String)
  /-- Text of the word itself, which may hold patterns. -/
  | plain (s : String)
  /-- What was put in without quotes, which is split as well. -/
  | loose (s : String)
  /-- The border between two fields, and whether they came of a star. -/
  | gap (star : Bool)

/-- How commands within words are run. -/
structure Runner where
  output : Option Command → Work String
  channel : Bool → Option Command → Work String

/-- A field as stretches of text, each with whether it was quoted. -/
abbrev Field := List (String × Bool)

def Field.text (f : Field) : String :=
  match f with
  | [(s, _)] => s
  | f => String.join (f.map (·.1))

def Field.marks (f : Field) : List Glob.Mark :=
  f.flatMap fun s => s.1.toList.map fun c => (c, s.2)

def piecesText (ps : List Piece) : String :=
  match ps with
  | [.fixed s] | [.plain s] | [.loose s] => s
  | ps => String.join (ps.map fun
    | .fixed s | .plain s | .loose s => s
    | .gap _ => " ")

/-- What stands between values that are put together. -/
def joiner (s : State) : String :=
  match s.value? "IFS" with
  | some ifs => (ifs.toList.head?.map Char.toString).getD ""
  | none => " "

/-- Pieces as the one text that a word without splitting stands for. -/
def joinedText (s : State) (ps : List Piece) : String :=
  match ps with
  | [.fixed t] | [.plain t] | [.loose t] => t
  | ps => String.join (ps.map fun
    | .fixed t | .plain t | .loose t => t
    | .gap star => if star || !s.isRich then joiner s else " ")

/-- Pieces as one field. -/
def piecesField (ps : List Piece) : Field :=
  ps.map fun
    | .fixed s => (s, true)
    | .plain s | .loose s => (s, false)
    | .gap _ => (" ", false)

/-! ## Splitting -/

/-- The state of splitting: the fields that are complete, the one begun, and whether blanks
have just ended one. -/
structure Splitting where
  done : List Field := []
  current : Option (List (String × Bool)) := none
  afterBlank : Bool := false

namespace Splitting

def add (x : Splitting) (s : String) (quoted : Bool) : Splitting :=
  { x with current := some ((s, quoted) :: x.current.getD []), afterBlank := false }

/-- End the field that was begun. -/
def close (x : Splitting) : Splitting :=
  match x.current with
  | some f => { x with done := f.reverse :: x.done, current := none }
  | none => x

/-- Take in text that is split at the separators. -/
def split (blanks others : List Char) : List Char → List Char → Splitting → Splitting
  | [], run, x => if run.isEmpty then x else x.add (String.ofList run.reverse) false
  | c :: rest, run, x =>
    if blanks.contains c then
      let x := if run.isEmpty then x else x.add (String.ofList run.reverse) false
      let x := if x.current.isSome then { x.close with afterBlank := true } else x
      split blanks others rest [] x
    else if others.contains c then
      let x := if run.isEmpty then x else x.add (String.ofList run.reverse) false
      let x :=
        if x.current.isSome then x.close
        else if x.afterBlank then { x with afterBlank := false }
        else { x with done := [] :: x.done }
      split blanks others rest [] { x with afterBlank := false }
    else split blanks others rest (c :: run) x

/-- The fields of some pieces. -/
def fields (separators : String) (ps : List Piece) : List Field :=
  let blanks := separators.toList.filter fun c => c == ' ' || c == '\t' || c == '\n'
  let others := separators.toList.filter fun c => !(c == ' ' || c == '\t' || c == '\n')
  let x := ps.foldl (fun x p =>
    match p with
    | .fixed s => x.add s true
    | .plain s => x.add s false
    | .loose s =>
      if s.isEmpty then x
      else if s.any fun c => blanks.contains c || others.contains c then
        split blanks others s.toList [] x
      else x.add s false
    | .gap _ => { x.close with afterBlank := false }) ({} : Splitting)
  x.close.done.reverse

end Splitting

/-! ## Names of files -/

/-- Names in the order of their bytes. -/
def sortTexts (l : List String) : List String := l.mergeSort fun a b => !bytesBefore b a

/-- How patterns are read. -/
def State.patternStyle (s : State) : Glob.Style :=
  { caret := s.isRich, groups := s.isRich && s.hasLong "extglob" }

/-- All that is below a directory, with whether each is a directory itself. -/
def below (hidden : Bool) : Nat → String → Work (List (String × Bool))
  | 0, _ => pure []
  | n + 1, base => do
    match ← askNames (.list (if base.isEmpty then "." else base)) with
    | .error _ => pure []
    | .ok names => do
      let mut all := []
      for name in sortTexts (names.filter fun name => hidden || !name.startsWith ".") do
        let path := base ++ name
        match ← inspect? path false with
        | some i =>
          if i.kind = .directory then
            let more ← below hidden n (path ++ "/")
            all := all ++ (path, true) :: more
          else all := all ++ [(path, false)]
        | none => pure ()
      pure all

/-- How deep directories are looked through. -/
def treeDepth : Nat := 100

/-- Follow the components of a pattern through the directories. -/
def matchPaths (style : Glob.Style) : List (List Glob.Mark) → String → Work (List String)
  | [], base => pure [base]
  | marks :: rest, base => do
    let s ← get
    let ignoreCase := s.hasLong "nocaseglob"
    let lower (c : Char) : Char := if ignoreCase then c.toLower else c
    let p := Glob.read style (marks.map fun m => (lower m.1, m.2))
    if marks == [('*', false), ('*', false)] && s.hasLong "globstar" then do
      let found ← below (s.hasLong "dotglob") treeDepth base
      if rest.isEmpty then
        pure (if base.isEmpty then found.map (·.1) else base :: found.map (·.1))
      else do
        let mut all := []
        for dir in base :: (found.filter (·.2)).map (·.1 ++ "/") do
          let more ← matchPaths style rest dir
          all := all ++ more
        pure (all.filter (!·.isEmpty))
    else if Glob.isMagic p then
      let dir := if base.isEmpty then "." else base
      match ← askNames (.list dir) with
      | .error _ => pure []
      | .ok names =>
        let hidden := marks.head?.any (·.1 == '.')
        let names :=
          if hidden && (!s.isRich || !s.hasLong "globskipdots") then "." :: ".." :: names
          else names
        let found := names.filter fun name =>
          (hidden || s.hasLong "dotglob" || !name.startsWith ".") &&
            Glob.isMatch p (name.toList.map lower)
        let mut all := []
        for name in sortTexts found do
          let path := base ++ name
          if rest.isEmpty then all := all ++ [path]
          else
            match ← inspect? path true with
            | some i =>
              if i.kind = .directory then
                let more ← matchPaths style rest (path ++ "/")
                all := all ++ more
            | none => pure ()
        pure all
    else
      let name := String.ofList (p.filterMap fun
        | .exactly c => some c
        | _ => none)
      let path := base ++ name
      if rest.isEmpty then
        if name.isEmpty then
          match ← inspect? base true with
          | some i => pure (if i.kind = .directory then [path] else [])
          | none => pure []
        else
          match ← inspect? path false with
          | some _ => pure [path]
          | none => pure []
      else matchPaths style rest (path ++ "/")

/-- Cut a pattern at its slashes. -/
def cutMarks : List Glob.Mark → List Glob.Mark → List (List Glob.Mark)
  | [], acc => [acc.reverse]
  | m :: rest, acc =>
    if m.1 == '/' then acc.reverse :: cutMarks rest [] else cutMarks rest (m :: acc)

/-- The names of the files that a field matches, or its text. -/
def fileNames (f : Field) : Work (List String) := do
  let s ← get
  let isMagic := f.any fun t => !t.2 && t.1.any fun c =>
    c == '*' || c == '?' || c == '[' || c == '(' && s.patternStyle.groups
  if s.has 'f' || !isMagic then pure [f.text]
  else do
    let found ← matchPaths s.patternStyle (cutMarks f.marks []) ""
    if found.isEmpty then
      if s.hasLong "nullglob" then pure []
      else if s.hasLong "failglob" then throw (.abandon 1)
      else pure [f.text]
    else pure found

/-! ## Parameters -/

/-- The value of a special parameter or a variable. -/
def parameterValue? (s : State) (name : String) : Option String :=
  match name with
  | "#" => some (toString s.arguments.length)
  | "?" => some (toString s.status)
  | "$" => some (toString s.pid)
  | "!" => s.lastBackground.map toString
  | "-" => some s.optionLetters
  | "0" => some s.title
  | _ =>
    if isDigits name then
      match name.toNat? with
      | some (n + 1) => s.arguments[n]?
      | _ => some s.title
    else if s.isRich then
      match name with
      | "RANDOM" => some (toString s.lastRandom)
      | "SRANDOM" => some (toString (s.random * 3 + 1))
      | "BASHPID" => some (toString s.selfPid)
      | "SECONDS" => some (toString (s.secondsAhead + (s.moment / 1000000 : Nat)))
      | "EPOCHSECONDS" => some (toString (Tool.epoch + s.moment / 1000000))
      | "EPOCHREALTIME" =>
        some (toString (Tool.epoch + s.moment / 1000000) ++ "." ++
          Tool.padded 6 (s.moment % 1000000))
      | "LINENO" => some (toString s.line)
      | "BASH_COMMAND" => some s.command
      | "BASH_ARGV0" => some s.title
      | "UID" | "EUID" => some "1000"
      | "BASH_SUBSHELL" => some (toString s.depth)
      | "_" => some s.lastWord
      | _ => s.value? name
    else s.value? name

/-- The values of a parameter that stands for several. -/
def parameterList? (s : State) (name : String) (index : Option String) : Option (List String) :=
  match name, index with
  | "@", none | "*", none => some s.arguments
  | _, some "@" | _, some "*" =>
    some (((s.view? name).map fun v => (State.elementsOf v).map (·.2)).getD [])
  | _, _ => none

/-- Leave off because a parameter is missing. In the rich shell this ends everything, with a
status of its own where the commands come from an argument. -/
def missing {α : Type} : Work α := do
  let s ← get
  if s.isRich then
    throw (.exit (if s.isOneLiner && !s.isSubshell && !s.has 'e' then 127 else 1))
  else fail

/-- The values that arithmetic sees. -/
def arithmeticValue (s : State) (name : String) (index : Option String) :
    Except Arithmetic.Trouble (Option String) :=
  let value? :=
    match index with
    | none => parameterValue? s name
    | some i => (s.view? name).bind fun v => (State.elementsOf v).lookup (State.keyIn v i)
  if value?.isNone && s.isRich && s.has 'u' then .error (.unset name) else .ok value?

/-- Bring up to date what some variables of the rich shell show. -/
def freshen (name : String) : Work Unit := do
  let s ← get
  if s.isRich then
    match name with
    | "RANDOM" => set s.draw
    | "SECONDS" | "EPOCHSECONDS" | "EPOCHREALTIME" => tellTime
    | _ => pure ()

/-- The value of an expression, whose assignments are carried out. -/
def calculate (text : String) : Work Int := do
  for name in ["RANDOM", "SECONDS", "EPOCHSECONDS", "EPOCHREALTIME"] do
    if 1 < (text.splitOn name).length then freshen name
  let s ← get
  let isKeyed (name : String) : Bool := (s.view? name).any (·.isKeyed)
  match Arithmetic.evaluate s.isRich isKeyed (arithmeticValue s) text with
  | .error why => do
    let place := if s.isRich && !s.running.isEmpty then s.running ++ ": " else ""
    match why.trouble with
    | .unset _ => do
      complain (why.message s.isRich)
      missing
    | _ => do
      complain (place ++ why.message s.isRich)
      fail
  | .ok (v, assigned) => do
    for a in assigned do
      let t ← get
      let old := (t.view? a.1).getD {}
      assign a.1 (a.2.1.map (State.keyIn old)) (toString a.2.2) false
    pure v

/-- The home directory that a name after a tilde stands for. -/
def homeOf (name : String) : Work (Option String) := do
  let s ← get
  if name.isEmpty then pure (s.value? "HOME")
  else if name == "+" && s.isRich then pure (s.value? "PWD")
  else if name == "-" && s.isRich then pure (s.value? "OLDPWD")
  else
    match ← openFile "/etc/passwd" .reading with
    | .error _ => pure none
    | .ok d => do
      let text ← readAll d
      close d
      pure ((lines text).findSome? fun l =>
        match l.splitOn ":" with
        | [n, _, _, _, _, home, _] => if n == name then some home else none
        | _ => none)

/-- Replace a tilde at the front of a text; further ones behind colons in an assignment. -/
def expandTilde (inAssignment isWhole : Bool) (text : String) : Work (List Piece) := do
  let parts := if inAssignment then text.splitOn ":" else [text]
  let mut pieces : List Piece := []
  let mut i := 0
  for part in parts do
    if i != 0 then pieces := pieces ++ [.plain ":"]
    i := i + 1
    let isLast := i == parts.length
    match part.toList with
    | '~' :: rest =>
      let name := rest.takeWhile (· != '/')
      if name.length == rest.length && isLast && !isWhole then pieces := pieces ++ [.plain part]
      else
        match ← homeOf (String.ofList name) with
        | some home =>
          pieces := pieces ++ [.fixed home, .plain (String.ofList (rest.drop name.length))]
        | none => pieces := pieces ++ [.plain part]
    | _ => pieces := pieces ++ [.plain part]
  pure (pieces.filter fun
    | .plain s => !s.isEmpty
    | _ => true)

/-- Replace what a pattern matches by a text that may depend on what was matched. -/
def substitute (p : Glob.Pattern) (mark : Option Char) (new : List Char → List Char)
    (s : String) : String :=
  let cs := s.toList
  match mark with
  | some '#' =>
    match Glob.frontMatch? p true cs with
    | some n => String.ofList (new (cs.take n) ++ cs.drop n)
    | none => if Glob.isMatch p [] then String.ofList (new [] ++ cs) else s
  | some '%' =>
    match Glob.backMatch? p true cs with
    | some n => String.ofList (cs.take (cs.length - n) ++ new (cs.drop (cs.length - n)))
    | none => if Glob.isMatch p [] then String.ofList (cs ++ new []) else s
  | mark =>
    let rec go : Nat → List Char → List Char
      | 0, cs => cs
      | _ + 1, [] => []
      | n + 1, c :: rest =>
        match Glob.frontMatch? p true (c :: rest) with
        | some (k + 1) =>
          let after := rest.drop k
          new (c :: rest.take k) ++ (if mark == some '/' then go n after else after)
        | _ => c :: go n rest
    String.ofList (go (cs.length + 1) cs)

/-- The text that takes the place of a match; a bare ampersand stands for what was matched. -/
def replacementText (ps : List Piece) (found : List Char) : List Char :=
  ps.flatMap fun
    | .fixed t => t.toList
    | .plain t | .loose t => go t.toList
    | .gap _ => [' ']
where
  go : List Char → List Char
    | '\\' :: '&' :: rest => '&' :: go rest
    | '&' :: rest => found ++ go rest
    | c :: rest => c :: go rest
    | [] => []

/-- Change the letters that are chosen, all of them or only the first one. -/
def changeCase (how : CaseChange) (all : Bool) (chosen : Char → Bool) (s : String) : String :=
  let change (c : Char) : Char :=
    if !chosen c then c
    else
      match how with
      | .raise => c.toUpper
      | .lower => c.toLower
      | .swap => if isUpper c then c.toLower else c.toUpper
  if all then s.map change
  else
    match s.toList with
    | c :: rest => String.ofList (change c :: rest)
    | [] => s

/-- A text in the form that a letter tells. -/
def transformText (letter : Char) (s : String) : String :=
  match letter with
  | 'U' => changeCase .raise true (fun _ => true) s
  | 'u' => changeCase .raise false (fun _ => true) s
  | 'L' => changeCase .lower true (fun _ => true) s
  | 'Q' => Quoting.reusable s
  | 'K' | 'k' => Quoting.reusable s
  | 'E' =>
    match ansiText (s.length + 2) (s.toList ++ ['\x27']) [] with
    | some (cs, _) => String.ofList cs
    | none => s
  | _ => s

/-- Some of a text's characters, counted from the end where numbers are negative. -/
def sliceText (s : String) (start : Int) (length : Option Int) : Option String :=
  let cs := s.toList
  let n : Int := cs.length
  let a := if start < 0 then n + start else start
  if a < 0 || n < a then some ""
  else
    match length with
    | none => some (String.ofList (cs.drop a.toNat))
    | some l =>
      let b := if l < 0 then n + l else a + l
      if b < a then none
      else some (String.ofList ((cs.drop a.toNat).take (b - a).toNat))

/-- Whether a part stands for the elements of a list without any. -/
def isEmptyList (s : State) : Part → Bool
  | .parameter name index .value =>
    let isAll := match index with
      | some [.plain "@"] => true
      | some _ => false
      | none => name == "@"
    isAll && parameterList? s name (index.map fun _ => "@") == some []
  | _ => false

section Expanding

variable (run : Runner)

/-- The pieces of a parameter's values. -/
def listPieces (s : State) (star quoted : Bool) (values : List String) : List Piece :=
  if quoted && star then
    [.fixed ((joiner s).intercalate values)]
  else
    (values.map fun v => if quoted then Piece.fixed v else .loose v).intersperse (.gap star)

mutual

/-- The pieces of some parts; the flag says whether they stand within quotes. -/
def expandParts : Nat → Bool → List Part → Work (List Piece)
  | 0, _, _ => fail
  | _ + 1, _, [] => pure []
  | n + 1, quoted, p :: rest => do
    let here ← expandPart n quoted p
    match rest with
    | [] => pure here
    | rest => do
      let more ← expandParts n quoted rest
      pure (here ++ more)

def expandPart : Nat → Bool → Part → Work (List Piece)
  | 0, _, _ => fail
  | n + 1, quoted, p =>
    match p with
    | .plain s => pure [if quoted then .fixed s else .plain s]
    | .fixed s => pure [.fixed s]
    | .quoted [] => pure [.fixed ""]
    | .quoted parts => do
      let ps ← expandParts n true parts
      /- An empty list takes along what is empty around it. -/
      let s ← get
      let isNothing := s.isRich && ps.all (fun
          | .fixed t => t.isEmpty
          | _ => false) && parts.any (isEmptyList s)
      pure (if isNothing then [] else ps)
    | .output c => do
      let text ← run.output c
      pure [if quoted then .fixed text else .loose text]
    | .arithmetic parts => do
      let ps ← expandParts n true parts
      let v ← calculate (piecesText ps)
      pure [if quoted then .fixed (toString v) else .loose (toString v)]
    | .channel reading c => do
      let path ← run.channel reading c
      pure [.fixed path]
    | .elements _ _ => pure []
    | .subscript index => do
      let text ← expandText n index
      pure [.plain ("[" ++ text ++ "]")]
    | .parameter name index use => expandParameter n quoted name index use

/-- A word as one text. -/
def expandText : Nat → List Part → Work String
  | 0, _ => fail
  | n + 1, w => do
    let ps ← expandParts n true w
    pure (piecesText ps)

/-- A word as a pattern. -/
def expandPattern : Nat → List Part → Work Glob.Pattern
  | 0, _ => fail
  | n + 1, w => do
    let ps ← expandParts n false w
    let s ← get
    pure (Glob.read s.patternStyle (piecesField ps).marks)

def expandParameter : Nat → Bool → String → Option (List Part) → Use → Work (List Piece)
  | 0, _, _, _, _ => fail
  | n + 1, quoted, name, index, use => do
    let index ← match index with
      | none => pure none
      | some w => do
        let text ← expandText n w
        pure (some text)
    freshen name
    let s ← get
    let emit (v : String) : List Piece := [if quoted then .fixed v else .loose v]
    let isStar := name == "*" || index == some "*"
    let values? := parameterList? s name index
    /- The value of a parameter that stands for one thing. -/
    let single ← match values?, index with
      | some vs, _ =>
        pure (if vs.isEmpty then none else some (" ".intercalate vs))
      | none, none => pure (parameterValue? s name)
      | none, some i =>
        match s.view? name with
        | none => pure none
        | some v =>
          if v.isKeyed then pure ((State.elementsOf v).lookup i)
          else do
            let k ← calculate i
            let k := State.indexIn v k
            if k < 0 then complain (name ++ ": bad array subscript")
            pure ((State.elementsOf v).lookup (toString k))
    let value : List Piece :=
      match values? with
      | some vs => listPieces s isStar quoted vs
      | none => emit (single.getD "")
    let unsetFault : Work (List Piece) := do
      let shown :=
        if !s.isRich then name ++ ": parameter not set"
        else
          let index := match index with
            | some i => "[" ++ i ++ "]"
            | none => ""
          (if name.length = 1 && (isDigits name || name == "!") then "$" else "") ++ name ++
            index ++ ": unbound variable"
      complain shown
      missing
    let checkSet (go : Work (List Piece)) : Work (List Piece) :=
      if s.has 'u' && single.isNone && values?.isNone then unsetFault else go
    let mapValues (f : String → String) : List Piece :=
      match values? with
      | some vs => listPieces s isStar quoted (vs.map f)
      | none => emit (f (single.getD ""))
    match use with
    | .value => checkSet (pure value)
    | .length =>
      checkSet (match values? with
        | some vs =>
          if s.isRich then pure (emit (toString vs.length))
          else pure (emit (toString (" ".intercalate vs).length))
        | none => pure (emit (toString (single.getD "").length)))
    | .fallback nullToo kind word =>
      let isSet := match single with
        | some v => !(nullToo && v.isEmpty)
        | none => false
      let expandWord : Work (List Piece) := do
        let ps ← expandParts n quoted (← tildeParts word quoted)
        if quoted && ps.isEmpty then pure [.fixed ""]
        else
          pure (ps.map fun
            | .plain t => .loose t
            | p => p)
      match kind with
      | .replace => if isSet then pure value else expandWord
      | .alternative =>
        if isSet then expandWord
        else pure (if quoted && (isStar || values?.isNone) then [.fixed ""] else [])
      | .assign =>
        if isSet then pure value
        else if !isName name then do
          complain (name ++ ": bad variable name")
          fail
        else do
          let ps ← expandParts n quoted word
          let text := piecesText ps
          assign name index text false
          pure (emit text)
      | .complain =>
        if isSet then pure value
        else do
          let ps ← expandParts n quoted word
          let text := piecesText ps
          complain (name ++ ": " ++ (if !text.isEmpty then text
            else if !nullToo then "parameter not set"
            else if s.isRich then "parameter null or not set"
            else "parameter not set or null"))
          missing
    | .trim front longest word =>
      checkSet (do
        let p ← expandPattern n word
        pure (mapValues fun v =>
          if front then Glob.trimFront p longest v else Glob.trimBack p longest v))
    | .substitute mark pattern replacement =>
      checkSet (do
        let p ← expandPattern n pattern
        let ps ← expandParts n false (← tildeParts replacement false)
        let new (found : List Char) : List Char :=
          if s.hasLong "patsub_replacement" then replacementText ps found
          else (piecesText ps).toList
        pure (mapValues (substitute p mark new)))
    | .slice start length =>
      checkSet (do
        let running := (← get).running
        modify fun t => { t with running := name }
        let a ← calculate (← expandText n start)
        let lengthText ← match length with
          | none => pure ""
          | some w => expandText n w
        let l ← match length with
          | none => pure none
          | some _ => do
            let v ← calculate lengthText
            pure (some v)
        modify fun t => { t with running := running }
        match values? with
        | some vs => do
          let isArguments := name == "@" || name == "*"
          let es : List (String × String) :=
            if isArguments then ((s.title :: vs).zipIdx.map fun e => (toString e.2, e.1))
            else ((s.view? name).map State.elementsOf).getD []
          let es := if (s.view? name).any (·.isKeyed) && !isArguments then
              (es.zipIdx.map fun e => (toString e.2, e.1.2))
            else es
          let a := if a < 0 then a + State.countOf es else a
          let behind := if a < 0 then []
            else (es.filter fun e => decide (a ≤ e.1.toInt?.getD 0)).map (·.2)
          if l.any (· < 0) then do
            complain (lengthText ++ ": substring expression < 0")
            throw (.abandon 1)
          pure (listPieces s isStar quoted (match l with
            | none => behind
            | some k => behind.take k.toNat))
        | none =>
          match sliceText (single.getD "") a l with
          | some t => pure (emit t)
          | none => do
            complain (lengthText ++ ": substring expression < 0")
            throw (.abandon 1))
    | .changeCase how all pattern =>
      checkSet (do
        let p ← expandPattern n pattern
        let chosen (c : Char) : Bool := pattern.isEmpty || Glob.isMatch p [c]
        pure (mapValues (changeCase how all chosen)))
    | .indirect next => do
      if (s.binding? name).any (·.isReference) then
        pure (emit (s.resolve State.referenceDepth name))
      else
        let target := single.getD ""
        if target.isEmpty then
          if single.isNone then throw (.abandon 1) else pure (emit "")
        else
          match splitAtChar? '[' target with
          | some (name, key) =>
            expandParameter n quoted name (some [.plain ((key.splitOn "]").headD "")]) next
          | none => expandParameter n quoted target none next
    | .indices =>
      let keys := ((s.view? name).map fun v => (State.elementsOf v).map (·.1)).getD []
      pure (listPieces s isStar quoted keys)
    | .names =>
      let names := (s.bindings.map (·.1)).filter (·.startsWith name)
      pure (listPieces s false quoted (sortTexts names))
    | .transform letter =>
      if single.isNone && values?.isNone && (letter != 'a' || (s.view? name).isNone) then
        pure (if quoted then [.fixed ""] else [])
      else
        let v := (s.view? name).getD {}
        let es := State.elementsOf v
        let isList := (name != "@" && name != "*") && values?.isSome
        match letter with
        | 'a' =>
          if isList then pure (listPieces s isStar quoted (es.map fun _ => attributes v))
          else pure (emit (attributes v))
        | 'A' =>
          if values?.isSome && !isList then
            pure (emit ("set -- " ++ " ".intercalate (s.arguments.map Quoting.reusable)))
          else if isList && v.elements.isSome then pure (emit (declarationOf name v))
          else
            let text := name ++ "=" ++ Quoting.reusable (single.getD "")
            let letters := attributes v
            pure (emit (if letters.isEmpty then text else "declare -" ++ letters ++ " " ++ text))
        | 'K' =>
          if isList then
            pure (emit (" ".intercalate (es.map fun e =>
              shownKey v.isKeyed e.1 ++ " " ++ Quoting.double e.2) ++
                (if v.isKeyed && !es.isEmpty then " " else "")))
          else pure (mapValues Quoting.reusable)
        | 'k' =>
          if isList then pure (listPieces s isStar quoted (es.flatMap fun e => [e.1, e.2]))
          else pure (mapValues Quoting.reusable)
        | letter => pure (mapValues (transformText letter))
    | .bad => do
      complain (if s.isRich then "bad substitution" else "Bad substitution")
      fail
where
  tildeParts (word : List Part) (quoted : Bool) : Work (List Part) :=
    match quoted, word with
    | false, .plain s :: rest => do
      if s.startsWith "~" then
        let ps ← expandTilde false rest.isEmpty s
        pure (ps.map (fun
          | .fixed t => Part.fixed t
          | .plain t | .loose t => .plain t
          | .gap _ => .plain " ") ++ rest)
      else pure word
    | _, w => pure w

end

/-- How deep words are expanded within words. -/
def wordDepth : Nat := 1000000

/-- The pieces of a word outside quotes, with tildes replaced. -/
def expandPieces (inAssignment : Bool) (w : Word) : Work (List Piece) := do
  match w with
  | [.plain s] =>
    if s.any (· == '~') then expandTilde inAssignment true s else pure [.plain s]
  | [.fixed s] => pure [.fixed s]
  | .plain s :: rest => do
    if s.any (· == '~') then
      let front ← expandTilde inAssignment false s
      let more ← expandParts run wordDepth false rest
      pure (front ++ more)
    else expandParts run wordDepth false w
  | w => expandParts run wordDepth false w

/-- A word that is not split, as one text. -/
def expandOne (inAssignment : Bool) (w : Word) : Work String := do
  let ps ← expandPieces run inAssignment w
  let s ← get
  pure (joinedText s ps)

/-- A word as a pattern, which may be one with groups in any case, and in which capitals may
count as small letters. -/
def patternOf (groups ignoreCase : Bool) (w : Word) : Work Glob.Pattern := do
  let ps ← expandPieces run false w
  let s ← get
  let style := s.patternStyle
  let marks := (piecesField ps).marks
  let marks := if ignoreCase then marks.map fun m => (m.1.toLower, m.2) else marks
  pure (Glob.read { style with groups := style.groups || groups } marks)

/-- A word as fields. -/
def expandFields (w : Word) : Work (List String) := do
  let ps ← expandPieces run false w
  match ps with
  | [.fixed s] => pure [s]
  | [] => pure []
  | ps => do
    let s ← get
    let fields := Splitting.fields s.separators ps
    match fields with
    | [f] => fileNames f
    | fields => do
      let mut all := []
      for f in fields do
        let names ← fileNames f
        all := names.reverse ++ all
      pure all.reverse

end Expanding

end StreamSupervisor.Shell
