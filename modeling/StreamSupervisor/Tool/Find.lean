import StreamSupervisor.Text.Regex
import StreamSupervisor.Tool.Dates
import StreamSupervisor.Tool.Listing
import StreamSupervisor.Tool.Starters

/-! # Finding files

Walking through directories and asking of each file whether it passes a chain of tests,
some of which do something on the way.
-/

namespace StreamSupervisor.Tool

open Machine

namespace Find

/-- How a number is compared: as it stands, or with a sign before it. -/
structure Bound where
  order : Ordering
  value : Nat

def Bound.holds (b : Bound) (n : Int) : Bool := compare n b.value == b.order

/-- How a file that passes is shown. -/
inductive Display where
  | path (ending : String)
  | format (text : String)
  | long

/-- Which time of a file is looked at. -/
inductive Moment where
  | used
  | altered
  | changed

/-- A test, or what is done with a file. -/
inductive Probe where
  | always (result : Bool)
  | named (pattern : Glob.Pattern) (whole ignoreCase : Bool)
  | linkNamed (pattern : Glob.Pattern) (ignoreCase : Bool)
  | matching (r : Regex) (ignoreCase : Bool)
  /-- Of one of some kinds; the kind may be that of what a link leads to. -/
  | ofKind (kinds : List FileKind) (behind : Bool)
  | sized (unit : Nat) (b : Bound)
  | empty
  /-- So many days old, parts of a day not counted. -/
  | aged (m : Moment) (b : Bound)
  /-- So many minutes old, parts of a minute counted as one. -/
  | agedMinutes (m : Moment) (b : Bound)
  | newer (m : Moment) (than : Int)
  | owned (mine : Bool)
  | allowed (mode : Nat) (how : Option Char)
  | accessible (right : Nat)
  | linked (b : Bound)
  | numbered (b : Bound)
  | same (node : Nat)
  /-- Show the file, or write it to a file of its own. -/
  | show (target : Option String) (d : Display)
  | run (command : List String) (inDirectory ask : Bool)
  | runAll (command : List String) (index : Nat)
  | delete
  | prune
  | quit
  | negation (p : Probe)
  | both (p q : Probe)
  | either (p q : Probe)
  | sequence (p q : Probe)

/-- Settings that hold for the whole walk. -/
structure Walk where
  least : Nat := 0
  most : Nat := 1000
  inward : Bool := false
  follow : Bool := false
  followNamed : Bool := false
  extended : Bool := false
  /-- Whether something is done with the files that pass. -/
  acts : Bool := false
  batches : Nat := 0
  /-- The file that names where to start. -/
  startsFrom : Option String := none

/-- What is left of the arguments, and the settings that were met. -/
structure Reading where
  rest : List String
  walk : Walk := {}
  environment : List String

/-- Reading goes wrong with an exit code. -/
abbrev Read := StateT Reading (ExceptT Nat Chore)

def wrong {α : Type} (why : String) : Read α := do
  let _ ← (warn ("find: " ++ why) : Chore Unit)
  throw 1

def chore {α : Type} (c : Chore α) : Read α := liftM c

def argument (option : String) : Read String := do
  let s ← get
  match s.rest with
  | a :: rest => do
    set { s with rest := rest }
    pure a
  | [] => wrong ("missing argument to '" ++ option ++ "'")

def setWalk (f : Walk → Walk) : Read Unit := modify fun s => { s with walk := f s.walk }

def bound? (text : String) : Option Bound :=
  let (order, ds) : Ordering × String :=
    if text.startsWith "+" then (.gt, dropChars 1 text)
    else if text.startsWith "-" then (.lt, dropChars 1 text)
    else (.eq, text)
  if isDigits ds then some ⟨order, ds.toNat?.getD 0⟩ else none

def boundOf (option : String) : Read Bound := do
  let a ← argument option
  match bound? a with
  | some b => pure b
  | none => wrong ("invalid argument '" ++ a ++ "' to '" ++ option ++ "'")

def kindOf? : Char → Option (List FileKind)
  | 'f' => some [.plain]
  | 'd' => some [.directory]
  | 'l' => some [.link]
  | 'c' => some [.characters]
  | 'p' => some [.queue]
  | 'b' | 's' | 'D' => some []
  | _ => none

def kindsOf? (text : String) : Option (List FileKind) :=
  let kinds? := (text.splitOn ",").mapM fun (part : String) =>
    match part.toList with
    | [c] => kindOf? c
    | _ => none
  kinds?.map List.flatten

def sizeUnit? : List Char → Option Nat
  | [] | ['b'] => some 512
  | ['c'] => some 1
  | ['w'] => some 2
  | ['k'] => some 1024
  | ['M'] => some 1048576
  | ['G'] => some 1073741824
  | _ => none

/-- The command behind an action, up to its end; a plus sign behind braces makes it one
command for many files. -/
def command : Nat → List String → Read (List String × Bool)
  | 0, _ => wrong "missing argument to '-exec'"
  | n + 1, acc => do
    let a ← argument "-exec"
    if a == ";" then
      if acc.isEmpty then wrong "invalid argument ';' to '-exec'" else pure (acc.reverse, false)
    else if a == "+" && acc.head? == some "\x7b\x7d" then pure (acc.reverse, true)
    else command n (a :: acc)

/-- The number of a user or group. -/
def isKnownUser (path name : String) : Read (Option Bool) := do
  let found ← chore (do
    match ← openFile path .reading with
    | .error _ => pure none
    | .ok d => do
      let text ← readAll d
      close d
      pure ((lines text).findSome? fun l =>
        match l.splitOn ":" with
        | n :: _ :: number :: _ => if n == name then some number else none
        | _ => none))
  match found with
  | some number => pure (some (number == "1000"))
  | none => pure (if isDigits name then some (name == "1000") else none)

/-- Whether a format ends behind a percent sign. -/
def endsOpen : List Char → Bool
  | ['%'] => true
  | '%' :: _ :: rest => endsOpen rest
  | _ :: rest => endsOpen rest
  | [] => false

def primary (option : String) : Read Probe := do
  let pattern : Read Glob.Pattern := do
    let a ← argument option
    pure (Glob.ofText a)
  let act (p : Probe) : Read Probe := do
    setWalk fun w => { w with acts := true }
    pure p
  let changedOf (path : String) : Read Int := do
    match ← chore (inspect path true) with
    | .ok i => pure i.changed
    | .error why => wrong ("'" ++ path ++ "': " ++ why.text)
  let moment : Moment := match option.toList.drop 1 with
    | 'a' :: _ => .used
    | 'c' :: _ => .altered
    | _ => .changed
  /- The file that is written to, made anew. -/
  let target : Read String := do
    let a ← argument option
    match ← chore (openFile a .writing) with
    | .ok d => do
      chore (close d)
      pure a
    | .error why => wrong ("'" ++ a ++ "': " ++ why.text)
  let format : Read String := do
    let a ← argument option
    if endsOpen a.toList then wrong "error: % at end of format string" else pure a
  let level : Read Nat := do
    let a ← argument option
    if isDigits a then pure (a.toNat?.getD 0)
    else wrong ("Expected a positive decimal integer argument to " ++ option)
  match option with
  | "-true" | "-noleaf" | "-warn" | "-nowarn" | "-daystart" | "-ignore_readdir_race"
  | "-noignore_readdir_race" | "-mount" | "-xdev" => pure (.always true)
  | "-false" => pure (.always false)
  | "-follow" => do
    setWalk fun w => { w with follow := true }
    pure (.always true)
  | "-depth" | "-d" => do
    setWalk fun w => { w with inward := true }
    pure (.always true)
  | "-maxdepth" => do
    let n ← level
    setWalk fun w => { w with most := n }
    pure (.always true)
  | "-mindepth" => do
    let n ← level
    setWalk fun w => { w with least := n }
    pure (.always true)
  | "-regextype" => do
    let a ← argument option
    let known := ["emacs", "posix-awk", "posix-basic", "posix-egrep", "posix-extended", "awk",
      "ed", "egrep", "findutils-default", "gnu-awk", "grep", "posix-minimal-basic", "sed"]
    if known.contains a then do
      let extended := a.endsWith "extended" || a.endsWith "egrep" || a.endsWith "awk"
      setWalk fun w => { w with extended := extended }
      pure (.always true)
    else wrong "unknown regular expression type"
  | "-name" => do
    let p ← pattern
    pure (.named p false false)
  | "-iname" => do
    let a ← argument option
    pure (.named (Glob.ofText a.toLower) false true)
  | "-path" | "-wholename" => do
    let p ← pattern
    pure (.named p true false)
  | "-ipath" | "-iwholename" => do
    let a ← argument option
    pure (.named (Glob.ofText a.toLower) true true)
  | "-lname" => do
    let p ← pattern
    pure (.linkNamed p false)
  | "-ilname" => do
    let a ← argument option
    pure (.linkNamed (Glob.ofText a.toLower) true)
  | "-regex" | "-iregex" => do
    let a ← argument option
    let s ← get
    match Regex.read s.walk.extended a with
    | .ok (r, _) => pure (.matching r (option == "-iregex"))
    | .error why => wrong ("failed to compile regular expression: " ++ why)
  | "-type" | "-xtype" => do
    let a ← argument option
    match kindsOf? a with
    | some ks => pure (.ofKind ks (option == "-xtype"))
    | none => wrong ("Unknown argument to -type: " ++ a)
  | "-size" => do
    let a ← argument option
    let cs := a.toList
    let front := cs.takeWhile fun c => isDigit c || c == '+' || c == '-'
    match bound? (String.ofList front), sizeUnit? (cs.drop front.length) with
    | some b, some u => pure (.sized u b)
    | _, _ => wrong ("invalid -size argument '" ++ a ++ "'")
  | "-empty" => pure .empty
  | "-mtime" | "-atime" | "-ctime" => do
    let b ← boundOf option
    pure (.aged moment b)
  | "-mmin" | "-amin" | "-cmin" => do
    let b ← boundOf option
    pure (.agedMinutes moment b)
  | "-used" => do
    let _ ← boundOf option
    pure (.always false)
  | "-newer" | "-anewer" | "-cnewer" => do
    let a ← argument option
    let t ← changedOf a
    pure (.newer moment t)
  | "-samefile" => do
    let a ← argument option
    match ← chore (inspect a true) with
    | .ok i => pure (.same i.node)
    | .error why => wrong ("'" ++ a ++ "': " ++ why.text)
  | "-user" | "-group" => do
    let a ← argument option
    match ← isKnownUser (if option == "-user" then "/etc/passwd" else "/etc/group") a with
    | some mine => pure (.owned mine)
    | none => wrong ("'" ++ a ++ "' is not the name of a known user")
  | "-uid" | "-gid" => do
    let b ← boundOf option
    pure (if b.holds 1000 then (if b.holds 0 then .always true else .owned true)
      else if b.holds 0 then .owned false else .always false)
  | "-nouser" | "-nogroup" => pure (.always false)
  | "-perm" => do
    let a ← argument option
    let how := a.toList.head?.filter fun c => c == '-' || c == '/'
    let text := if how.isSome then dropChars 1 a else a
    let isOld := text.startsWith "+" && isDigits (dropChars 1 text)
    match (if isOld then none else modeOf? text 0 0 false) with
    | some m => pure (.allowed m how)
    | none => wrong ("invalid mode '" ++ a ++ "'")
  | "-executable" => pure (.accessible 1)
  | "-writable" => pure (.accessible 2)
  | "-readable" => pure (.accessible 4)
  | "-links" => do
    let b ← boundOf option
    pure (.linked b)
  | "-inum" => do
    let b ← boundOf option
    pure (.numbered b)
  | "-fstype" => do
    let _ ← argument option
    pure (.always false)
  | "-context" => wrong "invalid predicate -context: SELinux is not enabled."
  | "-files0-from" => do
    let a ← argument option
    setWalk fun w => { w with startsFrom := some a }
    pure (.always true)
  | "-print" => act (.show none (.path "\n"))
  | "-print0" => act (.show none (.path "\x00"))
  | "-ls" => act (.show none .long)
  | "-printf" => do
    let f ← format
    act (.show none (.format f))
  | "-fprint" => do
    let t ← target
    act (.show (some t) (.path "\n"))
  | "-fprint0" => do
    let t ← target
    act (.show (some t) (.path "\x00"))
  | "-fls" => do
    let t ← target
    act (.show (some t) .long)
  | "-fprintf" => do
    let t ← target
    let f ← format
    act (.show (some t) (.format f))
  | "-exec" | "-execdir" | "-ok" | "-okdir" => do
    let s ← get
    let (words, many) ← command (s.rest.length + 1) []
    let asks := option.startsWith "-ok"
    if many && !asks then do
      let s ← get
      setWalk fun w => { w with batches := w.batches + 1 }
      act (.runAll words s.walk.batches)
    else act (.run words (option.endsWith "dir") asks)
  | "-delete" => do
    setWalk fun w => { w with inward := true }
    act .delete
  | "-prune" => pure .prune
  | "-quit" => pure .quit
  | o =>
    let isComparison : Bool := match o.toList.drop 6 with
      | [x, y] => o.startsWith "-newer" && "aBcm".toList.contains x && "aBcmt".toList.contains y
      | _ => false
    if isComparison then do
      let a ← argument option
      let moment : Moment := match o.toList.drop 6 with
        | 'a' :: _ => .used
        | 'c' :: _ | 'B' :: _ => .altered
        | _ => .changed
      if o.endsWith "t" then do
        let zone := Zone.ofText ((environmentValue? (← get).environment "TZ").getD "")
        let now ← chore (present zone)
        match timeOf? now a with
        | some t => pure (.newer moment (fileTime t))
        | none => wrong ("I cannot figure out how to interpret '" ++ a ++ "' as a date or time")
      else do
        let t ← changedOf a
        pure (.newer moment t)
    else if o == "--help" || o == "-help" || o == "--version" || o == "-version" then do
      chore (introduce (o.endsWith "version"))
      throw 0
    else wrong ("unknown predicate '" ++ o ++ "'")

mutual

/-- Tests joined by commas. -/
def readList : Nat → Nat → Read Probe
  | 0, _ => wrong "expression too long"
  | n + 1, depth => do
    let p ← readEither n depth
    let s ← get
    match s.rest with
    | "," :: rest => do
      set { s with rest := rest }
      let q ← readList n depth
      pure (.sequence p q)
    | _ => pure p

def readEither : Nat → Nat → Read Probe
  | 0, _ => wrong "expression too long"
  | n + 1, depth => do
    let p ← readBoth n depth
    let s ← get
    match s.rest with
    | o :: rest =>
      if o == "-o" || o == "-or" then do
        set { s with rest := rest }
        let q ← readEither n depth
        pure (.either p q)
      else pure p
    | [] => pure p

def readBoth : Nat → Nat → Read Probe
  | 0, _ => wrong "expression too long"
  | n + 1, depth => do
    let p ← readOne n depth
    let s ← get
    match s.rest with
    | [] | ")" :: _ | "," :: _ | "-o" :: _ | "-or" :: _ =>
      if s.rest.head? == some ")" && depth = 0 then
        wrong "you have too many ')'"
      else pure p
    | o :: rest => do
      if o == "-a" || o == "-and" then set { s with rest := rest }
      let q ← readBoth n depth
      pure (.both p q)

def readOne : Nat → Nat → Read Probe
  | 0, _ => wrong "expression too long"
  | n + 1, depth => do
    let s ← get
    match s.rest with
    | [] => wrong "expected an expression"
    | o :: rest => do
      set { s with rest := rest }
      if o == "!" || o == "-not" then do
        let p ← readOne n depth
        pure (.negation p)
      else if o == "(" then do
        if rest.head? == some ")" then wrong "empty parentheses are not allowed"
        let p ← readList n (depth + 1)
        let t ← get
        match t.rest with
        | ")" :: rest => do
          set { t with rest := rest }
          pure p
        | _ => wrong "expected to find a matching ')'"
      else if ["-a", "-and", "-o", "-or", ",", ")"].contains o then
        wrong ("invalid expression before '" ++ o ++ "'")
      else primary o

end

/-! ## Walking -/

/-- What was noticed on the way. -/
structure Notes where
  code : Nat := 0
  quit : Bool := false
  pruned : Bool := false
  /-- Files that wait for a command of their own number. -/
  waiting : List (Nat × String) := []

/-- A file that was come upon. -/
structure Here where
  path : String
  start : String
  depth : Nat
  info : FileInfo

abbrev Step := StateT Notes Chore

def fail (why : String) : Step Unit := do
  (warn ("find: " ++ why) : Chore Unit)
  modify fun n => { n with code := 1 }

/-- Run a command and say whether it went well. -/
def runCommand (environment words : List String) (directory : Option String) : Chore Bool := do
  match words with
  | [] => pure false
  | name :: arguments => do
    let pid ← Doing.fork (do
      match directory with
      | some d =>
        let _ ← Asking.ask (.enter d)
      | none => pure ()
      close 0
      let _ ← openFile "/dev/null" .reading
      let _ ← startProgram "find" name arguments environment
      pure 1)
    match ← Asking.ask (.collect (some pid) true) with
    | .ended _ status => pure (status.raw.toInt == 0)
    | _ => pure false

def kindLetter : FileKind → String
  | .plain => "f"
  | .directory => "d"
  | .link => "l"
  | .characters => "c"
  | .queue => "p"

/-- The time of a file that is looked at. What a process has made itself was altered lately. -/
def Here.time (h : Here) (m : Moment) (now : Int) : Int :=
  match m with
  | .altered => if h.info.mine then now else h.info.changed
  | _ => h.info.changed

/-- The fact that a letter of a format stands for, and whether it is a number. -/
def fact? (h : Here) (c : Char) : Chore (Option (String × Bool)) := do
  let text (s : String) : Chore (Option (String × Bool)) := pure (some (s, false))
  match c with
  | 'p' => text h.path
  | 'f' => text (baseName h.path)
  | 'h' => text (directoryName h.path)
  | 'P' => text (dropChars (h.start.length + (if h.start.endsWith "/" then 0 else 1)) h.path)
  | 'H' => text h.start
  | 's' => text (toString h.info.size)
  | 'd' => pure (some (toString h.depth, true))
  | 'y' => text (kindLetter h.info.kind)
  | 'Y' => do
    match ← inspect h.path true with
    | .ok i => text (kindLetter i.kind)
    | .error .linkLoop => text "L"
    | .error _ => text "N"
  | 'm' => pure (some (digits 8 h.info.mode, true))
  | 'M' => text (permissionText h.info)
  | 'n' => text (toString h.info.names)
  | 'i' => text (toString (h.info.node + 1000))
  | 'b' => text (toString (blocksOf h.info))
  | 'k' => text (toString ((blocksOf h.info + 1) / 2))
  | 'u' | 'g' => text (ownerOf h.info)
  | 'U' | 'G' => text (toString (ownerNumber h.info))
  | 'D' => text "2049"
  | 'F' => text "ext4"
  | 'S' => text "1"
  | 'Z' => text ""
  | 'l' => do
    match ← askText (.readLink h.path) with
    | .ok t => text t
    | .error _ => text ""
  | _ => pure none

/-- A time as a letter behind its kind asks for it. -/
def timeFact (h : Here) (c : Char) : String :=
  let t := changeTime {} h.info.changed
  let parts := ".%N0"
  match c with
  | '@' => t.text ("%s" ++ parts)
  | 'S' => t.text ("%S" ++ parts)
  | 'T' | 'X' => t.text ("%T" ++ parts)
  | '+' => t.text ("%F+%T" ++ parts)
  | c => t.text (String.ofList ['%', c])

/-- The time in the usual form, with parts of a second. -/
def usualTime (h : Here) : String :=
  (changeTime {} h.info.changed).text "%a %b %e %H:%M:%S.%N0 %Y"

/-- Write a format for one file. -/
def formatted (h : Here) : Nat → List Char → List String → Chore String
  | 0, _, acc => pure (String.join acc.reverse)
  | _ + 1, [], acc => pure (String.join acc.reverse)
  | n + 1, '%' :: '%' :: rest, acc => formatted h n rest ("%" :: acc)
  | n + 1, '%' :: rest, acc => do
    let (d, after) := Format.flags rest {}
    let (width, _, after) := takeDigits 10 after 0 0
    let (precision, after) : Option Nat × List Char := match after with
      | '.' :: more =>
        let (p, _, after) := takeDigits 10 more 0 0
        (some p, after)
      | after => (none, after)
    let d := { d with width := width, precision := precision }
    match after with
    | [] => pure (String.join ("%" :: acc).reverse)
    | c :: more =>
      let show_ (s : String) (more : List Char) : Chore String := do
        let s := match d.precision with
          | some p => String.ofList (s.toList.take p)
          | none => s
        formatted h n more (Format.pad d s :: acc)
      if c == 'a' || c == 'c' || c == 't' then show_ (usualTime h) more
      else if c == 'A' || c == 'C' || c == 'T' || c == 'B' then
        match more with
        | k :: more => show_ (timeFact h k) more
        | [] => pure (String.join acc.reverse)
      else
        match ← fact? h c with
        | some (s, true) =>
          formatted h n more (Format.padNumber d "" s true :: acc)
        | some (s, false) => show_ s more
        | none =>
          let shown := String.ofList ('%' :: rest.take (rest.length - more.length))
          formatted h n more (shown :: acc)
  | n + 1, '\\' :: c :: rest, acc => do
    let simple := [('a', '\x07'), ('b', '\x08'), ('f', '\x0c'), ('n', '\n'), ('r', '\r'),
      ('t', '\t'), ('v', '\x0b'), ('\\', '\\')]
    match simple.lookup c with
    | some d => formatted h n rest (d.toString :: acc)
    | none =>
      if c == 'c' then pure (String.join acc.reverse)
      else if between '0' '7' c then
        let ds := ((c :: rest).take 3).takeWhile (between '0' '7')
        formatted h n ((c :: rest).drop ds.length)
          ((Char.ofNat ((takeDigits 8 ds 0 0).1 % 256)).toString :: acc)
      else formatted h n rest (String.ofList ['\\', c] :: acc)
  | n + 1, c :: rest, acc => formatted h n rest (c.toString :: acc)

/-- A file as it is shown. -/
def Display.text (d : Display) (h : Here) : Chore String := do
  match d with
  | .path ending => pure (h.path ++ ending)
  | .format f => formatted h (f.length + 1) f.toList []
  | .long =>
    let target ← match ← askText (.readLink h.path) with
      | .ok t => pure (" -> " ++ t)
      | .error _ => pure ""
    let right (k : Nat) (s : String) : String := padLeft k s
    pure (right 9 (toString (h.info.node + 1000)) ++ " " ++
      right 6 (toString ((blocksOf h.info + 1) / 2)) ++ " " ++ permissionText h.info ++ " " ++
      right 3 (toString h.info.names) ++ " " ++ padRight 8 (ownerOf h.info) ++ " " ++
      padRight 8 (ownerOf h.info) ++ " " ++ right 8 (toString h.info.size) ++ " " ++
      (changeTime {} h.info.changed).text "%b %e %H:%M" ++ " " ++ h.path ++ target ++ "\n")

def evaluate (environment : List String) (h : Here) : Probe → Step Bool
  | .always b => pure b
  | .named p whole ignoreCase =>
    let text := if whole then h.path else baseName h.path
    pure (Glob.isMatch p (if ignoreCase then text.toLower else text).toList)
  | .linkNamed p ignoreCase => do
    match ← (askText (.readLink h.path) : Chore _) with
    | .ok t => pure (Glob.isMatch p (if ignoreCase then t.toLower else t).toList)
    | .error _ => pure false
  | .matching r ignoreCase =>
    pure ((Regex.matchAt? ignoreCase r (Regex.start h.path)).any (·.rest.isEmpty))
  | .ofKind ks behind => do
    if behind then
      match ← (inspect? h.path true : Chore _) with
      | some i => pure (ks.contains i.kind)
      | none => pure (ks.contains h.info.kind)
    else pure (ks.contains h.info.kind)
  | .sized unit b => pure (b.holds ((h.info.size + unit - 1) / unit : Nat))
  | .empty =>
    match h.info.kind with
    | .plain => pure (h.info.size == 0)
    | .directory => do
      match ← (askNames (.list h.path) : Chore _) with
      | .ok names => pure names.isEmpty
      | .error _ => pure false
    | _ => pure false
  | .aged m b => do
    match ← (askNumber .now : Chore _) with
    | .ok now => pure (b.holds (((now : Int) - h.time m now) / 86400000000))
    | .error _ => pure false
  | .agedMinutes m b => do
    match ← (askNumber .now : Chore _) with
    | .ok now =>
      let age := (now : Int) - h.time m now
      let bound : Int := b.value * 60000000
      pure (match b.order with
        | .gt => decide (bound < age)
        | .lt => decide (age < bound)
        | .eq => decide (age < bound) && decide (bound - 60000000 ≤ age))
    | .error _ => pure false
  | .newer m than => do
    match ← (askNumber .now : Chore _) with
    | .ok now => pure (decide (than < h.time m now))
    | .error _ => pure false
  | .owned mine => pure (h.info.mine == mine)
  | .allowed mode how =>
    let m := h.info.mode % 4096
    pure (match how with
      | some '-' => m &&& mode == mode
      | some _ => mode == 0 || m &&& mode != 0
      | none => m == mode)
  | .accessible right => (mayAccess h.path right : Chore Bool)
  | .linked b => pure (b.holds h.info.names)
  | .numbered b => pure (b.holds h.info.node)
  | .same node => pure (h.info.node == node)
  | .show target display => do
    let text ← (display.text h : Chore _)
    match target with
    | none => (say text : Chore Unit)
    | some path =>
      match ← (openFile path .appending : Chore _) with
      | .ok d => do
        let _ ← (write d text : Chore _)
        (close d : Chore Unit)
      | .error _ => pure ()
    pure true
  | .run words inDirectory asks => do
    let question := "< " ++ String.intercalate " " words ++ " > ? "
    if !(← (agreed asks question : Chore Bool)) then pure false
    else
      let shown := if inDirectory then "./" ++ baseName h.path else h.path
      let words := words.map fun w => String.intercalate shown (w.splitOn "\x7b\x7d")
      (runCommand environment words (if inDirectory then some (directoryName h.path) else none) :
        Chore Bool)
  | .runAll _ index => do
    modify fun n => { n with waiting := n.waiting ++ [(index, h.path)] }
    pure true
  | .delete => do
    if h.path == "." then pure true
    else
      match ← (askDone (if h.info.kind = .directory then .removeDirectory h.path
          else .unlink h.path) : Chore _) with
      | .ok () => pure true
      | .error why => do
        fail ("cannot delete '" ++ h.path ++ "': " ++ why.text)
        pure false
  | .prune => do
    modify fun n => { n with pruned := true }
    pure true
  | .quit => do
    modify fun n => { n with quit := true }
    pure true
  | .negation p => do
    let b ← evaluate environment h p
    pure (!b)
  | .both p q => do
    if ← evaluate environment h p then
      if (← get).quit then pure true else evaluate environment h q
    else pure false
  | .either p q => do
    if ← evaluate environment h p then pure true else evaluate environment h q
  | .sequence p q => do
    let _ ← evaluate environment h p
    if (← get).quit then pure true else evaluate environment h q

/-- Visit a file and what is below it. -/
def visit (environment : List String) (w : Walk) (p : Probe) (start : String) :
    Nat → Nat → String → Step Unit
  | 0, _, _ => pure ()
  | n + 1, depth, path => do
    if (← get).quit then pure ()
    else
      let follow := w.follow || depth == 0 && w.followNamed
      let info ← do
        match ← (inspect path follow : Chore _) with
        | .ok i => pure (.ok i)
        | .error why => if follow then (inspect path false : Chore _) else pure (.error why)
      match info with
      | .error why => fail ("'" ++ path ++ "': " ++ why.text)
      | .ok info => do
        let h : Here := ⟨path, start, depth, info⟩
        let here : Step Unit := do
          if w.least ≤ depth && !(← get).quit then
            let _ ← evaluate environment h p
        modify fun s => { s with pruned := false }
        if !w.inward then here
        let pruned := (← get).pruned && !w.inward
        modify fun s => { s with pruned := false }
        if info.kind = .directory && !pruned && depth < w.most && !(← get).quit then
          match ← (askNames (.list path) : Chore _) with
          | .error why => fail ("'" ++ path ++ "': " ++ why.text)
          | .ok names =>
            for name in names do visit environment w p start n (depth + 1) (joinPath path name)
        if w.inward then here

/-- Run the commands for which files have been waiting. -/
def flush (environment : List String) : Probe → Step Unit
  | .runAll words index => do
    let files := (← get).waiting.filterMap fun f => if f.1 == index then some f.2 else none
    if !files.isEmpty then
      if !(← (runCommand environment (words.dropLast ++ files) none : Chore Bool)) then
        modify fun n => { n with code := 1 }
  | .negation p => flush environment p
  | .both p q | .either p q | .sequence p q => do
    flush environment p
    flush environment q
  | _ => pure ()

end Find

/-- Leading options say how links are taken. -/
def findModes : List String → Find.Walk → List String × Find.Walk
  | a :: rest, w =>
    if a == "-H" then findModes rest { w with followNamed := true }
    else if a == "-L" then findModes rest { w with follow := true }
    else if a == "-P" then findModes rest { w with follow := false, followNamed := false }
    else if a.startsWith "-O" && isDigits (dropChars 2 a) then findModes rest w
    else (a :: rest, w)
  | [], w => ([], w)

def find (args environment : List String) : Chore Nat := do
  let (args, walk) := findModes args {}
  let isPath (a : String) : Bool :=
    !(a.startsWith "-" && 1 < a.length) && ! ["(", ")", "!", ","].contains a
  let paths := args.takeWhile isPath
  let tests := args.drop paths.length
  let read : Find.Read Find.Probe :=
    if tests.isEmpty then pure (.always true)
    else do
      let p ← Find.readList (4 * tests.length + 10) 0
      let s ← get
      match s.rest with
      | [] => pure p
      | a :: _ => Find.wrong ("paths must precede expression: '" ++ a ++ "'")
  match ← (read.run { rest := tests, walk := walk, environment := environment }).run with
  | .error code => finish code
  | .ok (p, s) => do
    let p := if s.walk.acts then p else .both p (.show none (.path "\n"))
    let starts? ← match s.walk.startsFrom with
      | none => pure (some (if paths.isEmpty then ["."] else paths))
      | some _ =>
        if !paths.isEmpty then do
          warn "find: extra operand"
          pure none
        else
          match ← openInput (s.walk.startsFrom.getD "-") with
          | some d => do
            let text ← readAll d
            pure (some ((text.splitOn "\x00").filter (!·.isEmpty)))
          | none => pure none
    match starts? with
    | none => finish 1
    | some starts => do
      let work : Find.Step Unit := do
        for path in starts do Find.visit environment s.walk p path 200 0 path
        Find.flush environment p
      let (_, notes) ← work.run {}
      finish notes.code

end StreamSupervisor.Tool
