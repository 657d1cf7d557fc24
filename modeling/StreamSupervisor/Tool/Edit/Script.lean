import StreamSupervisor.Text.Regex
import StreamSupervisor.Tool.Intake

/-! # Editing scripts

Scripts of commands that edit lines: which lines each command is for, and what it does to
them.
-/

namespace StreamSupervisor.Tool

open Machine

namespace Edit

inductive Address where
  | line (n : Nat)
  | every (first step : Nat)
  | last
  /-- A pattern; an empty one stands for the one used last. -/
  | pattern (r : Option (Regex × Bool))
  /-- So many lines more, or up to a multiple. -/
  | more (n : Nat)
  | multiple (n : Nat)

structure Choosing where
  first : Option Address := none
  second : Option Address := none
  negated : Bool := false

/-- How letters are changed: to capitals or to small ones, if at all. -/
structure Casing where
  all : Option Bool := none
  /-- What becomes of the first letter. -/
  first : Option Bool := none

/-- A part of a replacement: a text, and what a group matched behind it. -/
structure Part where
  text : String
  group : Option Nat := none
  casing : Casing := {}

structure Substitution where
  pattern : Option (Regex × Bool)
  parts : List Part
  everywhere : Bool := false
  which : Nat := 0
  printFirst : Bool := false
  print : Bool := false
  /-- Whether the outcome is a command whose output takes its place. -/
  runs : Bool := false
  file : Option String := none

inductive Action where
  /-- Go on behind the end of a block unless the line is chosen. -/
  | block (after : Nat)
  | nothing
  | append (text : String)
  | insert (text : String)
  | change (text : String)
  | branch (label : String) (condition : Option Bool)
  | label (name : String)
  | delete (firstLine : Bool)
  | get (append : Bool)
  | hold (append : Bool)
  | exchange
  | next (append : Bool)
  | print (firstLine : Bool)
  | list (width : Option Nat)
  /-- A command that is known but not there. -/
  | broken
  | number
  | name
  | quit (print : Bool) (code : Nat)
  | readFile (path : String)
  | readLine (path : String)
  | writeFile (path : String) (firstLine : Bool)
  /-- Run a command; without one the line itself is the command. -/
  | run (command : String)
  | substitute (s : Substitution)
  | transliterate (source target : List Char)
  | clear

structure Step where
  choosing : Choosing
  action : Action

/-- Reading ends with the exit code for a mistake if there is one. -/
abbrev Read := StateT (List Char) (Except Nat)

def mistake {α : Type} : Read α := throw 1

def skipBlanks : Read Unit := modify fun cs => cs.dropWhile fun c => c == ' ' || c == '\t'

def skipSpace : Read Unit := modify fun cs => cs.dropWhile fun c => isSpace c || c == ';'

def readNumber? : Read (Option Nat) := do
  let cs ← get
  let (v, n, rest) := takeDigits 10 cs 0 0
  if n = 0 then pure none
  else do
    set rest
    pure (some v)

/-- The character that stands behind a backslash in the way of a code: a letter, a control
character, or a number. What follows it is told as well. -/
def escaped? : List Char → Option (Option Char × List Char)
  | 'a' :: rest => some (some '\x07', rest)
  | 'f' :: rest => some (some '\x0c', rest)
  | 'n' :: rest => some (some '\n', rest)
  | 'r' :: rest => some (some '\r', rest)
  | 't' :: rest => some (some '\t', rest)
  | 'v' :: rest => some (some '\x0b', rest)
  | 'c' :: '\\' :: '\\' :: rest => some (some '\x1c', rest)
  | 'c' :: '\\' :: rest => some (none, rest)
  | 'c' :: c :: rest =>
    some (some (Char.ofNat (c.toUpper.toNat ^^^ 64)), rest)
  | 'd' :: rest => numbered 'd' 10 3 rest
  | 'o' :: rest => numbered 'o' 8 3 rest
  | 'x' :: rest => numbered 'x' 16 2 rest
  | _ => none
where
  numbered (letter : Char) (base most : Nat) (cs : List Char) :
      Option (Option Char × List Char) :=
    let (v, n, _) := takeDigits base (cs.take most) 0 0
    some (some (if n = 0 then letter else Char.ofNat (v % 256)), cs.drop n)

/-- A text in which the characters that are given by codes stand for themselves. -/
def unescaped : Nat → List Char → List Char → Option (List Char)
  | 0, _, _ => none
  | _ + 1, [], acc => some acc.reverse
  | n + 1, '\\' :: rest, acc =>
    match escaped? rest with
    | some (some c, after) => unescaped n after (c :: acc)
    | some (none, _) => none
    | none =>
      match rest with
      | c :: after => unescaped n after (c :: '\\' :: acc)
      | [] => some ('\\' :: acc).reverse
  | n + 1, c :: rest, acc => unescaped n rest (c :: acc)

/-- Where in a pattern the reading is: outside of brackets, inside, or inside of a class within
them that ends in the way that is given. -/
inductive Inside where
  | nothing
  | brackets
  | klass (mark : Char)
deriving DecidableEq

/-- Read a pattern up to a delimiter, which may stand between brackets or behind a backslash. -/
def readPattern (mark : Char) : Nat → List Char → Inside → Read String
  | 0, _, _ => mistake
  | n + 1, acc, inside => do
    match ← get with
    | [] => mistake
    | c :: rest => do
      set rest
      let more (cs : List Char) (after : List Char) (inside : Inside) : Read String := do
        set after
        readPattern mark n (cs.reverse ++ acc) inside
      match inside, c, rest with
      | _, '\\', 'n' :: after =>
        if mark == 'n' && inside = .nothing then more ['n'] after inside
        else more ['\n'] after inside
      | .brackets, '\\', '\\' :: after => more ['\\', '\\'] after .brackets
      | .nothing, '\\', d :: after =>
        if d == mark then more [d] after inside
        else if d == '\n' then more ['\n'] after inside
        else more ['\\', d] after inside
      | .nothing, '[', after =>
        if mark == '[' then pure (String.ofList acc.reverse)
        else
          /- A bracket that comes first belongs to the set. -/
          let lead := match after with
            | '^' :: ']' :: _ => ['^', ']']
            | '^' :: _ => ['^']
            | ']' :: _ => [']']
            | _ => []
          more ('[' :: lead) (after.drop lead.length) .brackets
      | .nothing, c, after =>
        if c == mark then pure (String.ofList acc.reverse)
        else if c == '\n' then mistake
        else more [c] after .nothing
      | .brackets, '[', d :: after =>
        if d == ':' || d == '.' || d == '=' then more ['[', d] after (.klass d)
        else more ['['] (d :: after) .brackets
      | .brackets, ']', after => more [']'] after .nothing
      | .klass k, c, after =>
        if c == '\n' then mistake
        else if c == k && after.head? == some ']' then more [c, ']'] (after.drop 1) .brackets
        else more [c] after (.klass k)
      | .brackets, c, after => if c == '\n' then mistake else more [c] after .brackets

/-- Read a replacement or one side of a table up to a delimiter. -/
def readReplacement (mark : Char) : Nat → List Char → Read String
  | 0, _ => mistake
  | n + 1, acc => do
    match ← get with
    | [] => mistake
    | '\\' :: c :: rest => do
      set rest
      let keeps := c != mark || c == '&'
      readReplacement mark n (if keeps then c :: '\\' :: acc else c :: acc)
    | c :: rest => do
      set rest
      if c == mark then pure (String.ofList acc.reverse)
      else if c == '\n' then mistake
      else readReplacement mark n (c :: acc)

/-- The flags of a pattern. -/
structure Flags where
  ignoreCase : Bool := false
  byLines : Bool := false

def readRegex (extended : Bool) (text : String) (flags : Flags) :
    Read (Option (Regex × Bool)) :=
  if text.isEmpty then
    if flags.ignoreCase || flags.byLines then mistake else pure none
  else do
    let some cs := unescaped (text.length + 1) text.toList [] | mistake
    match Regex.read extended (String.ofList cs) true true flags.byLines true with
    | .ok (r, _) => pure (some (r, flags.ignoreCase))
    | .error why => throw (if why.startsWith "character class" then 4 else 1)

def readFlags : Nat → Flags → Read Flags
  | 0, f => pure f
  | n + 1, f => do
    let cs ← get
    match cs.dropWhile fun c => c == ' ' || c == '\t' with
    | 'I' :: rest => do
      set rest
      readFlags n { f with ignoreCase := true }
    | 'M' :: rest => do
      set rest
      readFlags n { f with byLines := true }
    | _ => pure f

def readAddress (extended : Bool) : Read (Option Address) := do
  let cs ← get
  match cs with
  | '$' :: rest => do
    set rest
    pure (some .last)
  | '/' :: rest => patternBehind '/' rest
  | '\\' :: c :: rest => patternBehind c rest
  | _ => do
    match ← readNumber? with
    | none => pure none
    | some v =>
      skipBlanks
      match ← get with
      | '~' :: rest => do
        set rest
        skipBlanks
        let step ← readNumber?
        pure (some (.every v (step.getD 0)))
      | _ => pure (some (.line v))
where
  patternBehind (mark : Char) (rest : List Char) : Read (Option Address) := do
    set rest
    let text ← readPattern mark (rest.length + 1) [] .nothing
    let flags ← readFlags (rest.length + 1) {}
    let r ← readRegex extended text flags
    pure (some (.pattern r))

def readChoosing (extended : Bool) : Read Choosing := do
  let first ← readAddress extended
  let second ← if first.isNone then pure none
    else do
      skipBlanks
      match ← get with
      | ',' :: rest => do
        set rest
        skipBlanks
        match ← get with
        | '+' :: rest => do
          set rest
          skipBlanks
          pure (some (Address.more ((← readNumber?).getD 0)))
        | '~' :: rest => do
          set rest
          skipBlanks
          pure (some (Address.multiple ((← readNumber?).getD 0)))
        | _ =>
          match ← readAddress extended with
          | some a => pure (some a)
          | none => mistake
      | _ => pure none
  skipBlanks
  let cs ← get
  let rest := cs.dropWhile fun c => c == '!' || c == ' ' || c == '\t'
  let marks := (cs.take (cs.length - rest.length)).countP (· == '!')
  let bangs := marks != 0
  if 1 < marks then mistake
  set rest
  match first, second with
  | some (.line 0), some (.pattern _) | none, _ => pure ⟨first, second, bangs⟩
  | some (.line 0), _ => mistake
  | _, _ => pure ⟨first, second, bangs⟩

/-- The end of a command: a separator, a closing brace, or the end of the script. -/
def readEnd : Read Unit := do
  skipBlanks
  match ← get with
  | [] => pure ()
  | c :: rest =>
    if c == '\n' || c == ';' then set rest
    else if c == '\x7d' || c == '#' then pure ()
    else mistake

def readLabel : Read String := do
  skipBlanks
  let cs ← get
  let name := cs.takeWhile fun c => !isSpace c && c != ';' && c != '\x7d'
  set (cs.drop name.length)
  pure (String.ofList name)

def readPath : Read String := do
  skipBlanks
  let cs ← get
  let name := cs.takeWhile (· != '\n')
  set (cs.drop (name.length + 1))
  if name.isEmpty then mistake else pure (String.ofList name)

/-- The rest of a text up to a line end without a backslash in front. -/
def readTextLines : Nat → List Char → Read (List Char)
  | 0, _ => mistake
  | n + 1, acc => do
    match ← get with
    | [] => pure acc.reverse
    | ['\\'] => do
      set ([] : List Char)
      pure acc.reverse
    | '\\' :: '\n' :: rest => do
      set rest
      readTextLines n ('\n' :: acc)
    | '\\' :: rest =>
      match escaped? rest with
      | some (some c, after) => do
        set after
        readTextLines n (c :: acc)
      | some (none, _) => mistake
      | none => do
        set (rest.drop 1)
        readTextLines n ((rest.headD '\\') :: acc)
    | '\n' :: rest => do
      set rest
      pure acc.reverse
    | c :: rest => do
      set rest
      readTextLines n (c :: acc)

/-- The text behind a command that adds lines. Blanks in front of it are kept if a backslash
stands before them. -/
def readText : Read String := do
  skipBlanks
  match ← get with
  | [] => mistake
  | ['\\'] | ['\\', '\n'] => do
    let cs ← get
    set ([] : List Char)
    pure (if cs.length = 2 then "\n" else "")
  | cs => do
    match cs with
    | '\\' :: '\n' :: rest | '\\' :: rest => set rest
    | _ => pure ()
    let text ← readTextLines (cs.length + 1) []
    pure (String.ofList text ++ "\n")

/-- The parts of a replacement. A change of the first letter is for the next part only. -/
def readParts : Nat → List Char → List Char → Casing → List Part → Option (List Part)
  | 0, _, _, _, _ => none
  | n + 1, cs, run, casing, acc =>
    let lasting : Casing := { casing with first := none }
    let part (group : Option Nat) : List Part :=
      { text := String.ofList run.reverse, group := group, casing := casing } :: acc
    match cs with
    | [] => some (if run.isEmpty then acc else part none).reverse
    | '&' :: rest => readParts n rest [] lasting (part (some 0))
    | '\\' :: c :: rest =>
      match c with
      | 'L' => readParts n rest [] ⟨some false, none⟩ (part none)
      | 'U' => readParts n rest [] ⟨some true, none⟩ (part none)
      | 'E' => readParts n rest [] {} (part none)
      | 'l' => readParts n rest [] { lasting with first := some false } (part none)
      | 'u' => readParts n rest [] { lasting with first := some true } (part none)
      | c =>
        if isDigit c then readParts n rest [] lasting (part (some (c.toNat - 48)))
        else
          match escaped? (c :: rest) with
          | some (some d, after) => readParts n after (d :: run) casing acc
          | some (none, _) => none
          | none => readParts n rest (c :: run) casing acc
    | c :: rest => readParts n rest (c :: run) casing acc

/-- The options behind a substitution, with the flags of its pattern. -/
def readOptions : Nat → Substitution → Flags → Read (Substitution × Flags)
  | 0, _, _ => mistake
  | n + 1, s, f => do
    match ← get with
    | [] => pure (s, f)
    | c :: rest =>
      if isDigit c then do
        if s.which != 0 then mistake
        match ← readNumber? with
        | some (k + 1) => readOptions n { s with which := k + 1 } f
        | _ => mistake
      else do
        if c != '#' && c != '\x7d' then set rest
        match c with
        | 'g' => if s.everywhere then mistake else readOptions n { s with everywhere := true } f
        | 'p' =>
          if s.print || s.printFirst then mistake
          else if s.runs then readOptions n { s with print := true } f
          else readOptions n { s with printFirst := true } f
        | 'i' | 'I' => readOptions n s { f with ignoreCase := true }
        | 'm' | 'M' => readOptions n s { f with byLines := true }
        | 'e' => readOptions n { s with runs := true } f
        | 'w' => do
          let path ← readPath
          pure ({ s with file := some path }, f)
        | ' ' | '\t' => readOptions n s f
        | '\n' | ';' | '#' | '\x7d' => pure (s, f)
        | _ => mistake

def readSubstitution (extended : Bool) : Read Substitution := do
  match ← get with
  | [] => mistake
  | mark :: rest =>
    if mark == '\n' || mark == '\\' then mistake
    else do
      set rest
      let pattern ← readPattern mark (rest.length + 1) [] .nothing
      let new ← readReplacement mark (rest.length + 1) []
      let some parts := readParts (new.length + 2) new.toList [] {} [] | mistake
      let (s, flags) ← readOptions (rest.length + 1) { pattern := none, parts := parts } {}
      let r ← readRegex extended pattern flags
      let groups := match Regex.read extended pattern true with
        | .ok (_, n) => n
        | .error _ => 9
      let tooHigh := s.parts.any fun p => p.group.any fun k => !pattern.isEmpty && groups < k
      if tooHigh then mistake
      else
        pure { s with
          pattern := r, which := Nat.max 1 s.which
          /- Without a command to run there is nothing to be printed before it. -/
          print := s.print || s.printFirst && !s.runs, printFirst := s.printFirst && s.runs }

/-- The characters of one side of a table. -/
def tableSide : Nat → List Char → Option (List Char)
  | 0, _ => none
  | _ + 1, [] => some []
  | n + 1, '\\' :: rest =>
    match escaped? rest with
    | some (some c, after) => (tableSide n after).map (c :: ·)
    | some (none, _) => none
    | none =>
      match rest with
      | c :: after => (tableSide n after).map (c :: ·)
      | [] => some ['\\']
  | n + 1, c :: rest => (tableSide n rest).map (c :: ·)

def readTable : Read Action := do
  match ← get with
  | [] => mistake
  | mark :: rest => do
    set rest
    let a ← readReplacement mark (rest.length + 1) []
    let b ← readReplacement mark (rest.length + 1) []
    readEnd
    match tableSide (a.length + 1) a.toList, tableSide (b.length + 1) b.toList with
    | some source, some target =>
      if source.length == target.length then pure (.transliterate source target) else mistake
    | _, _ => mistake

def readCode? : Read (Option Nat) := do
  skipBlanks
  readNumber?

def readAction (extended : Bool) (c : Char) (choosing : Choosing) : Read Action := do
  let simple (a : Action) : Read Action := do
    readEnd
    pure a
  match c with
  | 'a' => do
    let t ← readText
    pure (.append t)
  | 'i' => do
    let t ← readText
    pure (.insert t)
  | 'c' => do
    let t ← readText
    pure (.change t)
  | 'b' => do
    let l ← readLabel
    pure (.branch l none)
  | 't' => do
    let l ← readLabel
    pure (.branch l (some true))
  | 'T' => do
    let l ← readLabel
    pure (.branch l (some false))
  | ':' => do
    let l ← readLabel
    if l.isEmpty || choosing.first.isSome then mistake
    pure (.label l)
  | 'd' => simple (.delete false)
  | 'D' => simple (.delete true)
  | 'g' => simple (.get false)
  | 'G' => simple (.get true)
  | 'h' => simple (.hold false)
  | 'H' => simple (.hold true)
  | 'x' => simple .exchange
  | 'n' => simple (.next false)
  | 'N' => simple (.next true)
  | 'p' => simple (.print false)
  | 'P' => simple (.print true)
  | 'l' => do
    let width ← readCode?
    simple (.list width)
  | 'L' => do
    let _ ← readCode?
    simple .broken
  | '=' => simple .number
  | 'F' => simple .name
  | 'z' => simple .clear
  | 'q' | 'Q' => do
    if choosing.second.isSome then mistake
    let code ← readCode?
    simple (.quit (c == 'q') (code.getD 0))
  | 'r' => do
    let p ← readPath
    pure (.readFile p)
  | 'R' => do
    let p ← readPath
    pure (.readLine p)
  | 'w' | 'W' => do
    let p ← readPath
    pure (.writeFile p (c == 'W'))
  | 's' => do
    let s ← readSubstitution extended
    pure (.substitute s)
  | 'y' => readTable
  | 'e' => do
    skipBlanks
    match ← get with
    | [] => pure (.run "")
    | '\n' :: rest => do
      set rest
      pure (.run "")
    | _ => do
      let t ← readText
      pure (.run (chomp t))
  | 'v' => do
    let l ← readLabel
    /- A script may ask for a version that is not newer than this one. -/
    match (l.splitOn ".").map String.toNat? with
    | some major :: rest =>
      let minor := (rest.headD (some 0)).getD 0
      if 4 < major || major = 4 && 9 < minor then mistake else pure .nothing
    | _ => if l.isEmpty then pure .nothing else mistake
  | _ => mistake

/-- Whether an action reads or writes a file that the script names, or runs a command. -/
def Action.isOutward : Action → Bool
  | .readFile _ | .readLine _ | .writeFile .. | .run _ => true
  | .substitute s => s.runs || s.file.isSome
  | _ => false

/-- The file that an action writes. -/
def Action.output? : Action → Option String
  | .writeFile path _ => some path
  | .substitute s => s.file
  | _ => none

/-- Read the commands of a script; the numbers are those of the blocks that are open. -/
def readSteps (extended : Bool) : Nat → List Nat → Array Step → Read (Array Step)
  | 0, _, _ => mistake
  | n + 1, open_, steps => do
    skipSpace
    match ← get with
    | [] => if open_.isEmpty then pure steps else mistake
    | '#' :: rest => do
      set (rest.dropWhile (· != '\n'))
      readSteps extended n open_ steps
    | '\x7d' :: rest =>
      match open_ with
      | [] => mistake
      | start :: outer => do
        set rest
        readEnd
        let steps := match steps[start]? with
          | some s => steps.setIfInBounds start { s with action := .block steps.size }
          | none => steps
        readSteps extended n outer steps
    | _ => do
      let choosing ← readChoosing extended
      match ← get with
      | [] => mistake
      | '\x7b' :: rest => do
        set rest
        readSteps extended n (steps.size :: open_) (steps.push ⟨choosing, .block 0⟩)
      | c :: rest => do
        set rest
        let action ← readAction extended c choosing
        readSteps extended n open_ (steps.push ⟨choosing, action⟩)

def labelsOf (steps : Array Step) : List String :=
  steps.toList.filterMap fun s =>
    match s.action with
    | .label l => some l
    | _ => none

/-- Read a script, or tell the exit code for a mistake in it; branches have to lead to
labels. -/
def readScript (extended : Bool) (text : String) : Except Nat (Array Step) :=
  match (readSteps extended (2 * text.length + 2) [] #[]).run text.toList with
  | .error code => .error code
  | .ok (steps, _) =>
    let labels := labelsOf steps
    if steps.all fun s =>
        match s.action with
        | .branch l _ => l.isEmpty || labels.contains l
        | _ => true then .ok steps
    else .error 4

end Edit

end StreamSupervisor.Tool
