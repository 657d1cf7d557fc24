import StreamSupervisor.Text.Quoting
import StreamSupervisor.Tool.Dates
import StreamSupervisor.Tool.Streams

/-! # Paths

Programs that show, make, move and remove files.
-/

namespace StreamSupervisor.Tool

open Machine

/-- The last component of a path, without slashes behind it. -/
def baseName (path : String) : String :=
  let cs := path.toList.reverse.dropWhile (· == '/')
  if cs.isEmpty then (if path.isEmpty then "" else "/")
  else String.ofList (cs.takeWhile (· != '/')).reverse

/-- A path without its last component. -/
def directoryName (path : String) : String :=
  let cs := path.toList.reverse.dropWhile (· == '/')
  let cs := (cs.dropWhile (· != '/')).dropWhile (· == '/')
  if cs.isEmpty then (if path.startsWith "/" then "/" else ".") else String.ofList cs.reverse

def joinPath (directory name : String) : String :=
  if directory.endsWith "/" then directory ++ name else directory ++ "/" ++ name

def dropEnding (ending name : String) : String :=
  if !ending.isEmpty && name.endsWith ending && name != ending then
    String.ofList (name.toList.take (name.length - ending.length))
  else name

def basename (args : List String) : Chore Nat :=
  withOptions { letters := "as:z", permute := false, long := [("multiple", .none),
    ("suffix", .required), ("zero", .none)] } 1 args fun chosen names => do
    let ending := valueOf? chosen ["s", "suffix"]
    let many := has chosen ["a", "multiple"] || ending.isSome
    let mark := if has chosen ["z", "zero"] then "\x00" else "\n"
    match names with
    | [] => do
      warn "basename: missing operand"
      pure 1
    | name :: rest =>
      if many then do
        for n in names do say (dropEnding (ending.getD "") (baseName n) ++ mark)
        finish 0
      else if 1 < rest.length then do
        warn "basename: extra operand"
        pure 1
      else do
        say (dropEnding (rest.headD "") (baseName name) ++ mark)
        finish 0

def dirname (args : List String) : Chore Nat :=
  withOptions { letters := "z", long := [("zero", .none)] } 1 args fun chosen names => do
    if names.isEmpty then do
      warn "dirname: missing operand"
      pure 1
    else do
      let mark := if has chosen ["z", "zero"] then "\x00" else "\n"
      for n in names do say (directoryName n ++ mark)
      finish 0

/-! ## Showing -/

def sorted (l : List String) : List String := l.mergeSort fun a b => !bytesBefore b a

/-- Whether a text is a size of blocks, with a unit or as a unit alone. -/
def isBlockSize (s : String) : Bool :=
  let unit := s.toList.dropWhile isDigit
  let hasNumber := unit.length != s.length
  let unit := match unit with
    | c :: 'i' :: 'B' :: [] | c :: 'B' :: [] => [c]
    | cs => cs
  s == "human-readable" || s == "si" ||
    (unit.isEmpty && hasNumber && (s.toList.any fun c => c != '0')) ||
    (unit.length = 1 && unit.all fun c => "kKmMGTPEZY".toList.contains c)

/-- The bits that a class of users has in modes. -/
def classBits : Char → Nat
  | 'u' => 2496
  | 'g' => 1080
  | 'o' => 519
  | _ => 4095

/-- The bits that a letter stands for, in all classes. -/
def rightBits : Char → Nat
  | 'r' => 292
  | 'w' => 146
  | 'x' => 73
  | 's' => 3072
  | 't' => 512
  | _ => 0

/-- Carry out a change of some bits of a mode. Bits that a directory keeps unless they are named
are left alone. -/
def adjustedMode (operator : Char) (affected : Option Nat) (named value mask old : Nat)
    (isDirectory : Bool) : Nat :=
  let omitted := if isDirectory then 3072 - (3072 &&& named) else 0
  let reach := match affected with
    | some a => a
    | none => 4095 - (4095 &&& mask)
  let value := (value &&& reach) - (value &&& reach &&& omitted)
  if operator == '+' then old ||| value
  else if operator == '-' then old - (old &&& value)
  else
    let kept := (match affected with
      | some a => 4095 - (4095 &&& a)
      | none => 0) ||| omitted
    (old &&& kept) ||| value

/-- Carry out the changes behind the letters for classes, one after another. -/
def changedMode? (affected : Option Nat) (mask : Nat) (isDirectory : Bool) :
    Nat → List Char → Nat → Option Nat
  | 0, _, _ => none
  | _ + 1, [], old => some old
  | n + 1, operator :: rest, old =>
    if !"+-=".toList.contains operator then none
    else
      let digits := rest.takeWhile (between '0' '7')
      let letters := rest.takeWhile fun c => "rwxXst".toList.contains c
      match rest with
      | c :: after =>
        if !digits.isEmpty then
          let v := (takeDigits 8 digits 0 0).1
          if affected.isSome || 4095 < v || digits.length != rest.length then none
          else some (adjustedMode operator (some 4095) 4095 v mask old isDirectory)
        else if c == 'u' || c == 'g' || c == 'o' then
          let shown := old &&& classBits c &&& 511
          let spread := [292, 146, 73].foldl (fun v bits =>
            if shown &&& bits != 0 then v ||| bits else v) 0
          let named := match affected with
            | some a => a &&& 511
            | none => 511
          changedMode? affected mask isDirectory n after
            (adjustedMode operator affected named spread mask old isDirectory)
        else
          let plain := letters.foldl (fun v x => v ||| rightBits x) 0
          let executes := letters.contains 'X' && (isDirectory || old &&& 73 != 0)
          let value := if executes then plain ||| 73 else plain
          changedMode? affected mask isDirectory n (rest.drop letters.length)
            (adjustedMode operator affected plain value mask old isDirectory)
      | [] => some (adjustedMode operator affected 0 0 mask old isDirectory)

/-- The modes of files as numbers in base eight, or as changes to an old mode. -/
def modeOf? (text : String) (old mask : Nat) (isDirectory : Bool) : Option Nat :=
  if !text.isEmpty && text.all (between '0' '7') then
    let v := (takeDigits 8 text.toList 0 0).1
    /- Few digits say nothing about bits that a directory keeps. -/
    let kept := if isDirectory && text.length < 5 then old &&& 3072 else 0
    if 4095 < v then none else some (v ||| kept)
  else
    let clause (old : Option Nat) (c : String) : Option Nat := do
      let old ← old
      let cs := c.toList
      let who := cs.takeWhile fun x => "ugoa".toList.contains x
      let rest := cs.drop who.length
      let affected := if who.isEmpty then none
        else some (who.foldl (fun v x => v ||| classBits x) 0)
      if rest.isEmpty then none
      else changedMode? affected mask isDirectory (rest.length + 1) rest old
    (text.splitOn ",").foldl clause (some old)

/-- The path of a file without links in it as far as there are files, and the rest of it
with dots taken away. -/
def resolveMissing : Nat → String → List String → Chore String
  | 0, path, _ => pure path
  | n + 1, path, rest => do
    match ← askText (.realPath path) with
    | .ok p =>
      pure (rest.foldl (fun p c =>
        if c == "." then p else if c == ".." then directoryName p else joinPath p c) p)
    | .error _ =>
      let above := directoryName path
      if above == path then pure path else resolveMissing n above (baseName path :: rest)

/-- How much of a path has to be there for it to be resolved. -/
inductive Presence where
  | all
  | allButLast
  | nothing
deriving DecidableEq

/-- The path of a file without links in it. -/
def resolvePath (how : Presence) (path : String) : Chore (Except Refusal String) := do
  if path.isEmpty then pure (.error .noEntry)
  else
    match ← askText (.realPath path) with
    | .ok p => pure (.ok p)
    | .error why =>
      match how with
      | .all => pure (.error why)
      | .nothing => do
        let p ← resolveMissing 200 path []
        pure (.ok p)
      | .allButLast => do
        let last := baseName path
        if why != .noEntry || last == "." || last == ".." then pure (.error why)
        else
          match ← inspect path false with
          /- A link that leads nowhere is followed as far as that is possible. -/
          | .ok _ => do
            match ← askText (.readLink path) with
            | .ok goal => do
              let place := if goal.startsWith "/" then goal else joinPath (directoryName path) goal
              match ← askText (.realPath (directoryName place)) with
              | .ok d => pure (.ok (joinPath d (baseName place)))
              | .error why => pure (.error why)
            | .error why => pure (.error why)
          | .error _ =>
            match ← askText (.realPath (directoryName path)) with
            | .ok d => do
              let i ← inspect? d true
              pure (if i.any (·.kind = .directory) then .ok (joinPath d last)
                else .error .notDirectory)
            | .error why => pure (.error why)

/-- The last of some choices that tell how much of a path has to be there. -/
def presenceOf (chosen : List Choice) (usual : Option Presence) : Option Presence :=
  match (chosen.filterMap fun c =>
      match c.name with
      | "e" | "canonicalize-existing" => some Presence.all
      | "f" | "canonicalize" => some .allButLast
      | "m" | "canonicalize-missing" => some .nothing
      | _ => none).getLast? with
  | some how => some how
  | none => usual

def readLink (args : List String) : Chore Nat :=
  withOptions { letters := "efmnqsvz", long := [("canonicalize", .none),
    ("canonicalize-existing", .none), ("canonicalize-missing", .none), ("no-newline", .none),
    ("quiet", .none), ("silent", .none), ("verbose", .none), ("zero", .none)] } 1 args
    fun chosen names => do
    if names.isEmpty then do
      warn "readlink: missing operand"
      pure 1
    else do
      let mark := if has chosen ["z", "zero"] then "\x00" else "\n"
      let ending := if has chosen ["n", "no-newline"] && names.length = 1 then "" else mark
      let mut code := 0
      for name in names do
        let found ← match presenceOf chosen none with
          | some how => resolvePath how name
          | none => askText (.readLink name)
        match found with
        | .ok p => say (p ++ ending)
        | .error why => do
          if has chosen ["v", "verbose"] then warn ("readlink: " ++ name ++ ": " ++ why.text)
          code := 1
      finish code

/-- A path from one directory to a path, given both without links. -/
def relativePath (from_ to_ : String) : String :=
  let a := (from_.splitOn "/").filter (!·.isEmpty)
  let b := (to_.splitOn "/").filter (!·.isEmpty)
  let common := ((a.zip b).takeWhile fun p => p.1 == p.2).length
  let parts := List.replicate (a.length - common) ".." ++ b.drop common
  if parts.isEmpty then "." else "/".intercalate parts

/-- An absolute path without dots and needless slashes. -/
def tidied (path : String) : String :=
  let step (acc : List String) (part : String) : List String :=
    if part.isEmpty || part == "." then acc
    else if part == ".." then acc.drop 1
    else part :: acc
  "/" ++ "/".intercalate ((path.splitOn "/").foldl step []).reverse

/-- Whether a path is another one or lies below it. -/
def isBelow (above path : String) : Bool :=
  path == above || above == "/" || path.startsWith (above ++ "/")

def realPath (args : List String) : Chore Nat :=
  withOptions { letters := "eLmPqsz", long := [("canonicalize-existing", .none),
    ("canonicalize-missing", .none), ("logical", .none), ("physical", .none), ("quiet", .none),
    ("strip", .none), ("no-symlinks", .none), ("zero", .none), ("relative-to", .required),
    ("relative-base", .required)] } 1 args fun chosen names => do
    let how := (presenceOf chosen (some .allButLast)).getD .allButLast
    let plain := has chosen ["s", "strip", "no-symlinks"]
    let resolve (path : String) : Chore (Except Refusal String) := do
      if plain then
        if path.isEmpty then pure (.error .noEntry)
        else do
          let here ← match ← askText .whereAmI with
            | .ok h => pure h
            | .error _ => pure "/"
          let full := if path.startsWith "/" then path else joinPath here path
          let clean := tidied full
          let there ← inspect clean true
          let above ← inspect (directoryName clean) true
          match how, there, above with
          | .all, .error why, _ => pure (.error why)
          | .allButLast, .error _, .error why => pure (.error why)
          | _, _, _ => pure (.ok clean)
      else
        /- The path is taken as it is written before links are followed. -/
        let logical := has chosen ["L", "logical"]
        if logical && !path.isEmpty then do
          let here ← match ← askText .whereAmI with
            | .ok h => pure h
            | .error _ => pure "/"
          resolvePath how (tidied (if path.startsWith "/" then path else joinPath here path))
        else resolvePath how path
    let complain (name : String) (why : Refusal) : Chore Unit :=
      if has chosen ["q", "quiet"] then pure ()
      else warn ("realpath: " ++ name ++ ": " ++ why.text)
    if names.isEmpty then do
      warn "realpath: missing operand"
      pure 1
    else do
      let mark := if has chosen ["z", "zero"] then "\x00" else "\n"
      let base ← match valueOf? chosen ["relative-base"] with
        | none => pure (.ok none)
        | some d => do
          let p ← resolve d
          pure (p.map some)
      let start ← match valueOf? chosen ["relative-to"] with
        | none => pure (.ok none)
        | some d => do
          let p ← resolve d
          pure (p.map some)
      match base, start with
      | .error why, _ | _, .error why => do
        complain "" why
        pure 1
      | .ok base, .ok start => do
        /- A start that is not below the base is no start. -/
        let start := match base, start with
          | some b, some s => if isBelow b s then some s else none
          | some b, none => some b
          | none, s => s
        let mut code := 0
        for name in names do
          match ← resolve name with
          | .ok p =>
            let shown := match start, base with
              | some s, some b => if isBelow b p then relativePath s p else p
              | some s, none => relativePath s p
              | none, _ => p
            say (shown ++ mark)
          | .error why => do
            complain name why
            code := 1
        finish code

/-! ## Removing -/

/-- Do something with every name, and fail in the end if it failed for one. -/
def eachName (title : String) (names : List String) (f : String → Chore (Except Refusal Unit)) :
    Chore Nat := do
  let mut code := 0
  for name in names do
    match ← f name with
    | .ok () => pure ()
    | .error why => do
      warn (title ++ ": '" ++ name ++ "': " ++ why.text)
      code := 1
  finish code

/-- Ask a question; an answer that begins with y agrees. -/
def askUser (question : String) : Chore Bool := do
  let _ ← write 2 question
  let line ← readLine 0 '\n' endless []
  pure (line.any fun l => l.startsWith "y" || l.startsWith "Y")

/-- Whether the user agrees, who is asked only if need be. -/
def agreed (asks : Bool) (question : String) : Chore Bool :=
  if asks then askUser question else pure true

/-- How files are removed. -/
structure Removal where
  force : Bool
  recursive : Bool
  emptyDirectories : Bool
  asks : Bool
  verbose : Bool

/-- What came of the removal of a file. -/
inductive Removed where
  | gone
  /-- The user wanted to keep it. -/
  | kept
  | failed
deriving DecidableEq

def kindText (i : FileInfo) : String :=
  match i.kind with
  | .directory => "directory"
  | .link => "symbolic link"
  | .characters => "character special file"
  | .queue => "fifo"
  | .plain => if i.size = 0 then "regular empty file" else "regular file"

/-- Remove a file, or a directory with all that is in it. -/
def removeTree (r : Removal) : Nat → String → Chore Removed
  | 0, _ => pure .failed
  | n + 1, path => do
    let cannot (why : Refusal) : Chore Removed := do
      warn ("rm: cannot remove " ++ Quoting.single path ++ ": " ++ why.text)
      pure .failed
    match ← inspect path false with
    | .error why =>
      if r.force && (why = .noEntry || why = .notDirectory) then pure .gone else cannot why
    | .ok i =>
      let question (asks : Bool) (what : String) : Chore Bool :=
        agreed (asks && r.asks) ("rm: " ++ what ++ " " ++ Quoting.single path ++ "? ")
      if i.kind = .directory then
        let last := baseName path
        let names ← askNames (.list path)
        let entries := match names with
          | .ok ns => ns
          | .error _ => []
        if r.recursive && (last == "." || last == ".." || last == "/") then do
          warn "rm: refusing to remove \x27.\x27 or \x27..\x27 directory"
          pure .failed
        else if !r.recursive && !(r.emptyDirectories && entries.isEmpty) then
          cannot (if r.emptyDirectories then .notEmpty else .isDirectory)
        else if !(← question (!entries.isEmpty) "descend into directory") then pure .kept
        else do
          let mut worst : Removed := .gone
          for e in entries do
            let here ← removeTree r n (joinPath path e)
            if here = .failed || here = .kept && worst = .gone then worst := here
          if worst != .gone then pure worst
          else if !(← question true "remove directory") then pure .kept
          else
            match ← askDone (.removeDirectory path) with
            | .ok () => do
              if r.verbose then say ("removed directory " ++ Quoting.single path ++ "\n")
              pure .gone
            | .error why =>
              match names with
              | .error unread => cannot (if why = .notEmpty then unread else why)
              | .ok _ => cannot why
      else if !(← question true ("remove " ++ kindText i)) then pure .kept
      else
        match ← askDone (.unlink path) with
        | .ok () => do
          if r.verbose then say ("removed " ++ Quoting.single path ++ "\n")
          pure .gone
        | .error why => cannot why

def remove (args : List String) : Chore Nat :=
  withOptions { letters := "dfirvIR", long := [("force", .none), ("interactive", .optional),
    ("one-file-system", .none), ("no-preserve-root", .none), ("preserve-root", .optional),
    ("recursive", .none), ("dir", .none), ("verbose", .none)], checks := [
      .words ["interactive"] ["never", "no", "none", "once", "always", "yes"],
      .words ["preserve-root"] ["all"]] } 1 args fun chosen names => do
    let recursive := has chosen ["r", "R", "recursive"]
    /- The last of the options that tell whether to ask counts. -/
    let step (acc : Bool × Bool × Bool) (c : Choice) : Bool × Bool × Bool :=
      let once := (acc.1, false, true)
      match c.name with
      | "f" | "force" => (true, false, false)
      | "i" => (false, true, false)
      | "I" => (false, false, true)
      | "interactive" =>
        match c.value with
        | none => (false, true, false)
        | some v =>
          if v.startsWith "n" then (acc.1, false, false)
          else if v.startsWith "o" then once
          else (false, true, false)
      | _ => acc
    let (force, asks, once) := chosen.foldl step (false, false, false)
    if names.isEmpty then
      if force then pure 0
      else do
        warn "rm: missing operand"
        pure 1
    else if !(← agreed (once && (recursive || 3 < names.length))
        ("rm: remove " ++ toString names.length ++ " arguments? ")) then pure 0
    else do
      let r : Removal := {
        force := force, recursive := recursive, emptyDirectories := has chosen ["d", "dir"]
        asks := asks, verbose := has chosen ["v", "verbose"] }
      let mut code := 0
      for name in names do
        if (← removeTree r 200 name) = .failed then code := 1
      finish code

def missingOperand (title : String) : Chore Nat := do
  warn (title ++ ": missing operand")
  pure 1

def removeDirectory (args : List String) : Chore Nat :=
  withOptions { letters := "pv", long := [("parents", .none), ("verbose", .none),
    ("ignore-fail-on-non-empty", .none)] } 1 args fun chosen names =>
    if names.isEmpty then missingOperand "rmdir"
    else
      let one (n : String) : Chore (Except Refusal Unit) := do
        if has chosen ["v", "verbose"] then
          say ("rmdir: removing directory, " ++ Quoting.single n ++ "\n")
        match ← askDone (.removeDirectory n) with
        | .ok () => pure (.ok ())
        | .error why =>
          if has chosen ["ignore-fail-on-non-empty"] then
            match ← askNames (.list n) with
            | .ok (_ :: _) => pure (.ok ())
            | _ => pure (.error why)
          else pure (.error why)
      eachName "rmdir" names fun n =>
        if has chosen ["p", "parents"] then do
          let cs := n.splitOn "/" |>.filter (!·.isEmpty)
          let root := if n.startsWith "/" then "/" else ""
          let paths := (List.range cs.length).map fun i =>
            root ++ "/".intercalate (cs.take (cs.length - i))
          let mut result : Except Refusal Unit := .ok ()
          for p in paths do
            match result with
            | .ok () => result ← one p
            | .error _ => pure ()
          pure result
        else one n

/-! ## Making -/

/-- Make a directory, with just the mode that was asked for if there is one. -/
def makeOne (verbose : Bool) (mode : Option Nat) (path : String) : Chore (Except Refusal Unit) := do
  match ← askDone (.makeDirectory path (mode.getD 511)) with
  | .error why => pure (.error why)
  | .ok () => do
    if let some m := mode then
      let _ ← askDone (.changeMode path m)
    if verbose then say ("mkdir: created directory " ++ Quoting.single path ++ "\n")
    pure (.ok ())

/-- Make a directory with all those above it that are missing. -/
def makePath (verbose : Bool) (mode : Option Nat) : Nat → String → Chore (Except Refusal Unit)
  | 0, _ => pure (.error .nameTooLong)
  | n + 1, path => do
    match ← inspect? path true with
    | some i => pure (if i.kind = .directory then .ok () else .error .alreadyThere)
    | none => do
      let above := directoryName path
      let r ← if above == path || above == "." then pure (.ok ())
        else makePath verbose none n above
      match r with
      | .error .alreadyThere => pure (.error .notDirectory)
      | .error why => pure (.error why)
      | .ok () =>
        let last := baseName path
        if last == "." || last == ".." then pure (.ok ()) else makeOne verbose mode path

def makeDirectory (args : List String) : Chore Nat :=
  withOptions { letters := "m:pvZ", long := [("mode", .required), ("parents", .none),
    ("verbose", .none), ("context", .optional)] } 1 args fun chosen names => do
    let mask ← match ← Asking.ask (.mask none) with
      | .number n => pure n
      | _ => pure 18
    let mode := match valueOf? chosen ["m", "mode"] with
      | some m => (modeOf? m (511 - (511 &&& mask)) mask true).map some
      | none => some none
    match mode with
    | none => do
      warn "mkdir: invalid mode"
      pure 1
    | some mode =>
      let verbose := has chosen ["v", "verbose"]
      if names.isEmpty then missingOperand "mkdir"
      else eachName "mkdir" names fun n =>
        if n.isEmpty then pure (.error .noEntry)
        else if has chosen ["p", "parents"] then makePath verbose mode 200 n
        else makeOne verbose mode n

/-- The time that digits tell: the year if need be, month, day, hour and minute, and perhaps
seconds. -/
def stampOf? (now : Instant) (s : String) : Option Instant :=
  let (front, seconds) : String × String := match splitAtChar? '.' s with
    | some (a, b) => (a, b)
    | none => (s, "00")
  let cs := front.toList
  let year := cs.take (cs.length - 8)
  let pair (i : Nat) : Nat := (takeDigits 10 ((cs.drop (year.length + i)).take 2) 0 0).1
  let given := (takeDigits 10 year 0 0).1
  let year : Int := match year.length with
    | 0 => (Day.ofNumber (now.seconds / 86400)).year
    | 2 => if given < 69 then given + 2000 else given + 1900
    | _ => given
  let second := (seconds.toNat?).getD 99
  if isDigits front && [8, 10, 12].contains front.length && seconds.length = 2 &&
      isDigits seconds && second < 61 && pair 4 < 24 && pair 6 < 60 then
    (dayOf? year (pair 0) (pair 2)).map fun d =>
      { now with seconds := d * 86400 + ((pair 4 * 3600 + pair 6 * 60 + second : Nat) : Int)
                 nanos := 0 }
  else none

/-- A time as the machine's files keep it. -/
def fileTime (t : Instant) : Int := (t.seconds - (epoch : Int)) * 1000000 + t.nanos / 1000

def touchFiles (args : List String) : Chore Nat :=
  withOptions { letters := "acd:fhmr:t:", long := [("time", .required), ("no-create", .none),
    ("date", .required), ("reference", .required), ("no-dereference", .none)], checks := [
      .words ["time"] ["atime", "access", "use", "mtime", "modify"]] } 1 args
    fun chosen names => do
    let micros := match ← askNumber .now with
      | .ok t => t
      | .error _ => 0
    let now : Instant := { seconds := ((epoch + micros / 1000000 : Nat) : Int)
                           nanos := micros % 1000000 * 1000 }
    let wrong (why : String) : Chore Nat := do
      warn ("touch: " ++ why)
      pure 1
    let reference ← match valueOf? chosen ["r", "reference"] with
      | none => pure (some none)
      | some file => do
        let i ← inspect? file true
        pure (i.map fun i => some i.changed)
    let dated := valueOf? chosen ["d", "date"]
    let stamped := valueOf? chosen ["t"]
    match reference with
    | none => wrong "failed to get attributes"
    | some known => do
      if stamped.isSome && (dated.isSome || known.isSome) then
        return ← wrong "times from more than one source"
      let base : Instant := match known with
        | some k => { seconds := (epoch : Int) + k / 1000000
                      nanos := (k % 1000000 * 1000).toNat }
        | none => now
      let time? : Option (Option Int) := match dated, stamped with
        | some d, _ => (timeOf? base d).map fun t => some (fileTime t)
        | none, some s => (stampOf? now s).map fun t => some (fileTime t)
        | none, none => some known
      match time? with
      | none => wrong "invalid date format"
      | some time =>
        if names.isEmpty then missingOperand "touch"
        else
          /- The time of the last access alone is not kept. -/
          let accessed := has chosen ["a"] && !has chosen ["m"]
          eachName "touch" names fun n => do
            let set_ : Chore (Except Refusal Unit) := do
              if accessed then
                match ← inspect n true with
                | .ok _ => pure (.ok ())
                | .error why => pure (.error why)
              else askDone (.touch n time)
            if n == "-" then pure (.ok ())
            else
              match ← set_ with
              | .error .noEntry =>
                if has chosen ["c", "no-create"] then pure (.ok ())
                else
                  match ← openFile n { writable := true, create := true } with
                  | .ok d => do
                    close d
                    if time.isSome then askDone (.touch n time) else pure (.ok ())
                  | .error why => pure (.error why)
              | r => pure r

/-! ## Permissions -/

/-- Permissions as letters, without the kind of file. -/
def rightsText (mode : Nat) : String :=
  let bit (n : Nat) (c : Char) : Char := if mode / n % 2 = 1 then c else '-'
  /- A special bit takes the place of the one for execution. -/
  let special (n s : Nat) (small capital : Char) : Char :=
    match mode / s % 2, mode / n % 2 with
    | 1, 1 => small
    | 1, _ => capital
    | _, 1 => 'x'
    | _, _ => '-'
  String.ofList [bit 256 'r', bit 128 'w', special 64 2048 's' 'S', bit 32 'r', bit 16 'w',
    special 8 1024 's' 'S', bit 4 'r', bit 2 'w', special 1 512 't' 'T']

/-- A mode as four digits and letters. -/
def modeText (mode : Nat) : String :=
  let ds := digits 8 mode
  String.ofList (List.replicate (4 - ds.length) '0') ++ ds ++ " (" ++ rightsText mode ++ ")"

/-- How permissions are changed. -/
structure ModeChange where
  mode : String
  /-- Whether the mode was given in the way of an option. -/
  asOption : Bool
  recursive : Bool
  quiet : Bool
  /-- Whether all files are reported, or those that were changed. -/
  reportsAll : Bool
  reportsChanges : Bool

/-- Change the permissions of a file, and of those below it where asked. -/
def changeModes (c : ModeChange) (mask : Nat) : Nat → Bool → String → Chore Bool
  | 0, _, _ => pure false
  | n + 1, named, path => do
    let complain (why : String) : Chore Bool := do
      if !c.quiet then warn ("chmod: " ++ why)
      pure false
    let name := Quoting.single path
    let entry? ← inspect? path false
    if !named && entry?.any (·.kind = .link) then do
      if c.reportsAll then
        say ("neither symbolic link " ++ name ++ " nor referent has been changed\n")
      pure true
    else
      match ← inspect path true with
      | .error why => do
        let r ← if entry?.any (·.kind = .link) then
            complain ("cannot operate on dangling symlink " ++ name)
          else complain ("cannot access " ++ name ++ ": " ++ why.text)
        if c.reportsAll then say (name ++ " could not be accessed\n")
        pure r
      | .ok i =>
        let isDirectory := decide (i.kind = .directory)
        match modeOf? c.mode i.mode mask isDirectory with
        | none => complain "invalid mode"
        | some new => do
          let ok ← match ← askDone (.changeMode path new) with
            | .error why => do
              let r ← complain ("changing permissions of " ++ name ++ ": " ++ why.text)
              if c.reportsAll then
                say ("failed to change mode of " ++ name ++ " from " ++ modeText i.mode ++ " to " ++
                  modeText new ++ "\n")
              pure r
            | .ok () => do
              if new != i.mode then
                if c.reportsAll || c.reportsChanges then
                  say ("mode of " ++ name ++ " changed from " ++ modeText i.mode ++ " to " ++
                    modeText new ++ "\n")
              else if c.reportsAll then
                say ("mode of " ++ name ++ " retained as " ++ modeText new ++ "\n")
              let naive := (modeOf? c.mode i.mode 0 isDirectory).getD new
              if c.asOption && new - (new &&& naive) != 0 then
                complain (path ++ ": new permissions are " ++ rightsText new ++ ", not " ++
                  rightsText naive)
              else pure true
          if c.recursive && isDirectory then
            match ← askNames (.list path) with
            | .error why => complain ("cannot read directory " ++ name ++ ": " ++ why.text)
            | .ok names => do
              let mut all := ok
              for e in names do
                let here ← changeModes c mask n false (joinPath path e)
                all := all && here
              pure all
          else pure ok

def changeMode (args : List String) : Chore Nat :=
  let isMode (a : String) : Bool := match a.toList with
    | '-' :: c :: _ => "rwxXstugoa01234567,+=".toList.contains c
    | _ => false
  let front := args.takeWhile (· != "--")
  let modes := front.filter isMode
  let args := front.filter (fun a => !isMode a) ++ args.drop front.length
  withOptions { letters := "Rcfv", long := [("changes", .none), ("quiet", .none),
    ("silent", .none), ("verbose", .none), ("recursive", .none), ("reference", .required),
    ("preserve-root", .none), ("no-preserve-root", .none)] } 1 args fun chosen operands => do
    let reference ← match valueOf? chosen ["reference"] with
      | none => pure (some none)
      | some path => do
        let i ← inspect? path true
        pure (i.map some)
    match reference with
    | none => do
      warn "chmod: failed to get attributes"
      pure 1
    | some known => do
      let (mode, names) : Option String × List String :=
        match known, modes with
        | some i, _ => (some (digits 8 i.mode), operands)
        | none, [] => (operands.head?, operands.drop 1)
        | none, ms => (some (",".intercalate ms), operands)
      if known.isSome && !modes.isEmpty then do
        warn "chmod: cannot combine mode and --reference options"
        return 1
      match mode with
      | none => missingOperand "chmod"
      | some mode =>
        if names.isEmpty then missingOperand "chmod"
        else if (modeOf? mode 0 0 false).isNone then do
          warn "chmod: invalid mode"
          pure 1
        else do
          let mask ← match ← Asking.ask (.mask none) with
            | .number n => pure n
            | _ => pure 18
          let c : ModeChange := {
            mode := mode, asOption := !modes.isEmpty
            recursive := has chosen ["R", "recursive"]
            quiet := has chosen ["f", "quiet", "silent"]
            reportsAll := has chosen ["v", "verbose"]
            reportsChanges := has chosen ["c", "changes"] }
          let mut code := 0
          for n in names do
            let ok ← changeModes c mask 200 true n
            if !ok then code := 1
          finish code

/-! ## Temporary files -/

/-- Make a new file or directory whose name ends in letters that nobody chose. -/
def makeTemporary (args environment : List String) : Chore Nat :=
  withOptions { letters := "dp:qtuV", long := [("directory", .none), ("quiet", .none),
    ("dry-run", .none), ("suffix", .required), ("tmpdir", .optional)] } 1 args
    fun chosen names => do
    let fail (why : String) : Chore Nat := do
      warn ("mktemp: " ++ why)
      pure 1
    match names with
    | _ :: _ :: _ => fail "too many templates"
    | names => do
      let given := names.headD "tmp.XXXXXXXXXX"
      let fixed := valueOf? chosen ["suffix"]
      let shown := given.toList
      let rest := shown.reverse.dropWhile (· != 'X')
      let marks := (rest.takeWhile (· == 'X')).length
      let stem := String.ofList (rest.drop marks).reverse
      let ending := match fixed with
        | some e => e
        | none => String.ofList (shown.drop rest.length)
      let asked := (chosen.filter fun c => c.name == "p" || c.name == "tmpdir").getLast?
      let usual := match environmentOf? "TMPDIR" with
        | some d => if d.isEmpty then "/tmp" else d
        | none => "/tmp"
      let directory := match asked.bind (·.value) with
        | some d => if d.isEmpty then usual else d
        | none => usual
      let old := has chosen ["t"]
      if fixed.isSome && !given.endsWith "X" then
        fail "with --suffix, template must end in X"
      else if ending.contains '/' then fail "invalid suffix, contains directory separator"
      else if marks < 3 then fail "too few X\x27s in template"
      else if old && given.contains '/' then
        fail "invalid template, contains directory separator"
      else if !old && asked.isSome && given.startsWith "/" then
        fail "with --tmpdir, template may not be absolute"
      else do
        let within := names.isEmpty || old || asked.isSome
        let directory := if old then (match environmentOf? "TMPDIR" with
            | some d => if d.isEmpty then directory else d
            | none => directory)
          else directory
        let front := if within then joinPath directory stem else stem
        let rec attempt : Nat → Nat → Chore Nat
          | 0, _ => pure 1
          | n + 1, k => do
            let ds := toString k
            let ds := String.ofList (ds.toList.drop (ds.length - marks))
            let name := front ++ String.ofList (List.replicate (marks - ds.length) 'a') ++ ds ++
              ending
            let r ←
              if has chosen ["u", "dry-run"] then
                match ← inspect? name false with
                | some _ => pure (.error .alreadyThere)
                | none => pure (.ok ())
              else if has chosen ["d", "directory"] then askDone (.makeDirectory name 448)
              else
                match ← openFile name
                    { readable := true, writable := true, create := true, exclusive := true } with
                | .ok d => do
                  close d
                  askDone (.changeMode name 384)
                | .error why => pure (.error why)
            match r with
            | .ok () => do
              say (name ++ "\n")
              finish 0
            | .error .alreadyThere => attempt n (k + 1)
            | .error why => do
              if !has chosen ["q", "quiet"] then
                warn ("mktemp: failed to create: " ++ why.text)
              pure 1
        attempt 500 100
where
  environmentOf? (name : String) : Option String :=
    (environment.find? fun e => e.startsWith (name ++ "=")).map (dropChars (name.length + 1))

def truncate (args : List String) : Chore Nat :=
  withOptions { letters := "cor:s:", long := [("no-create", .none), ("io-blocks", .none),
    ("reference", .required), ("size", .required)] } 1 args fun chosen names => do
    let sizeText := valueOf? chosen ["s", "size"]
    let relation := (sizeText.bind (·.toList.head?)).filter fun c => "<>/%".toList.contains c
    let c? ← match sizeText, valueOf? chosen ["r", "reference"] with
      | some s, _ => pure (count? (if relation.isSome then dropChars 1 s else s))
      | none, some path => do
        let i ← inspect? path true
        pure (i.map fun i => ⟨none, i.size⟩)
      | none, none => pure none
    match c? with
    | some c =>
      if names.isEmpty then missingOperand "truncate"
      else eachName "truncate" names fun n => do
        let old ← match ← openFile n .reading with
          | .ok d => do
            let s ← readAll d
            close d
            pure (some s)
          | .error _ => pure none
        if old.isNone && has chosen ["c", "no-create"] then pure (.ok ())
        else
          match ← openFile n .writing with
          | .error why => pure (.error why)
          | .ok d => do
            let cs := (old.getD "").toList
            let now := cs.length
            let unit := if c.value = 0 then 1 else c.value
            let size := match relation, c.sign with
              | some '<', _ => Nat.min now c.value
              | some '>', _ => Nat.max now c.value
              | some '/', _ => now / unit * unit
              | some _, _ => (now + unit - 1) / unit * unit
              | none, some '+' => now + c.value
              | none, some _ => now - c.value
              | none, none => c.value
            let s := cs.take size
            let _ ← write d (String.ofList (s ++ List.replicate (size - s.length) '\x00'))
            close d
            pure (.ok ())
    | none => do
      warn "truncate: invalid size"
      pure 1

/-! ## Comparing -/

/-- See to it that files are stored, which they always are. -/
def flushFiles (args : List String) : Chore Nat :=
  withOptions { letters := "df", long := [("data", .none), ("file-system", .none)] } 1 args
    fun chosen names =>
    if names.isEmpty then pure (if has chosen ["d", "data"] then 1 else 0)
    else
      eachName "sync" names fun n => do
        match ← inspect n true with
        | .ok _ => pure (.ok ())
        | .error why => pure (.error why)

def compareFiles (args : List String) : Chore Nat :=
  withOptions { letters := "bi:ln:svc", long := [("print-bytes", .none), ("ignore-initial",
    .required), ("verbose", .none), ("bytes", .required), ("quiet", .none), ("silent", .none)] }
    2 args fun chosen names => do
    match names with
    | a :: rest =>
      let numbers := (rest.drop 1 ++ (valueOf? chosen ["i", "ignore-initial"]).toList.flatMap
        (·.splitOn ":")).map count?
      let limit := (valueOf? chosen ["n", "bytes"]).map count?
      let both := has chosen ["l", "verbose"] && has chosen ["s", "quiet", "silent"]
      if rest.isEmpty && a == "-" || 3 < rest.length || both || (limit.any (·.isNone)) ||
          numbers.any (·.isNone) then pure 2
      else do
        let b := rest.headD "-"
        let (s, okA) ← allText [a]
        let (t, okB) ← allText [b]
        if !okA || !okB then pure 2
        else
          let skip (i : Nat) : Nat :=
            match (numbers[i]?).bind id, (numbers[0]?).bind id with
            | some c, _ => c.value
            | none, some c => if (valueOf? chosen ["i", "ignore-initial"]).isSome then c.value else 0
            | none, none => 0
          let piece (cs : List Char) : List Char := match limit.bind id with
            | some c => cs.take c.value
            | none => cs
          let s' := piece (s.toList.drop (skip 0))
          let t' := piece (t.toList.drop (skip 1))
          if s' == t' then pure 0
          else do
            let same := ((s'.zip t').takeWhile fun p => p.1 == p.2).length
            if !has chosen ["s", "quiet", "silent"] then
              if same = s'.length || same = t'.length then
                warn ("cmp: EOF on " ++ (if same = s'.length then a else b))
              else
                let line := (s'.take same).countP (· == '\n') + 1
                say (a ++ " " ++ b ++ " differ: byte " ++ toString (same + 1) ++ ", line " ++
                  toString line ++ "\n")
            finishWith 2 1
    | [] => do
      warn "cmp: missing operand"
      pure 2

/-- How two texts are compared line by line. -/
structure Likeness where
  ignoreCase : Bool
  ignoreBlanks : Bool
  squeezeBlanks : Bool
  skipEmpty : Bool

/-- A line with all that does not matter taken away. -/
def Likeness.fold (l : Likeness) (line : String) : String :=
  let cs := if l.ignoreCase then line.toLower.toList else line.toList
  let isGap (c : Char) : Bool := c == ' ' || c == '\t'
  if l.ignoreBlanks then String.ofList (cs.filter fun c => !isGap c)
  else if l.squeezeBlanks then
    let words := ((String.ofList cs).split isGap).toStringList
    let kept := words.zipIdx.filter fun w => w.2 = 0 || !w.1.isEmpty
    " ".intercalate (kept.map (·.1))
  else String.ofList cs

def Likeness.isSame (l : Likeness) (s t : String) : Bool :=
  s == t ||
    let folded (x : String) : List String :=
      let ls := (x.splitOn "\n").map l.fold
      if l.skipEmpty then ls.filter (!·.isEmpty) else ls
    folded s == folded t

/-- Whether two files or directories differ: not at all, somewhere, or in a way that cannot
be told. -/
def differ (l : Likeness) (recursive missingIsEmpty brief : Bool) :
    Nat → Bool → String → String → Chore Nat
  | 0, _, _, _ => pure 2
  | n + 1, top, a, b => do
    let kind (name : String) : Chore (Option FileKind) := do
      if name == "-" then pure (some .plain)
      else
        let i ← inspect? name true
        pure (i.map (·.kind))
    match ← kind a, ← kind b with
    | some .directory, some .directory =>
      if !top && !recursive then pure 0
      else
        match ← askNames (.list a), ← askNames (.list b) with
        | .ok x, .ok y => do
          let mut code := 0
          for name in sorted (x ++ y.filter fun e => !x.contains e) do
            if x.contains name && y.contains name then
              let here ← differ l recursive missingIsEmpty brief n false (joinPath a name)
                (joinPath b name)
              code := Nat.max code here
            else if missingIsEmpty && recursive then
              let here ← differ l recursive missingIsEmpty brief n false (joinPath a name)
                (joinPath b name)
              code := Nat.max code here
            else do
              say ("Only in " ++ (if x.contains name then a else b) ++ ": " ++ name ++ "\n")
              code := Nat.max code 1
          pure code
        | _, _ => pure 2
    | ka, kb => do
      let missing := ka.isNone || kb.isNone
      if ka.isNone && kb.isNone || missing && !missingIsEmpty then do
        warn ("diff: " ++ (if ka.isNone then a else b) ++ ": No such file or directory")
        pure 2
      else if !top && (ka == some .directory || kb == some .directory) && !missing then do
        say ("File " ++ a ++ " is of another kind than " ++ b ++ "\n")
        pure 1
      else do
        let a' := if ka == some .directory && kb.isSome then joinPath a (baseName b) else a
        let b' := if kb == some .directory && ka.isSome then joinPath b (baseName a) else b
        let (s, okA) ← if ka.isNone then pure ("", true) else allText [a']
        let (t, okB) ← if kb.isNone then pure ("", true) else allText [b']
        if !okA || !okB then pure 2
        else if l.isSame s t then pure 0
        else do
          if brief then say ("Files " ++ a ++ " and " ++ b ++ " differ\n")
          else
            say (String.join ((lines s).map fun l => "< " ++ l ++ "\n") ++ "---\n" ++
              String.join ((lines t).map fun l => "> " ++ l ++ "\n"))
          pure 1

def difference (args : List String) : Chore Nat :=
  let letters := "0123456789abBcC:dD:eEfF:hHiI:lL:nNpPqrsS:tTuU:vwW:x:X:yZ"
  withOptions { letters := letters, long := [
      ("brief", .none), ("unified", .optional), ("context", .optional), ("ignore-case", .none),
      ("recursive", .none), ("report-identical-files", .none), ("new-file", .none),
      ("unidirectional-new-file", .none), ("normal", .none), ("ed", .none), ("rcs", .none),
      ("text", .none), ("side-by-side", .none), ("ignore-all-space", .none),
      ("ignore-space-change", .none), ("ignore-blank-lines", .none), ("color", .optional),
      ("ignore-trailing-space", .none), ("ignore-tab-expansion", .none), ("minimal", .none),
      ("strip-trailing-cr", .none), ("width", .required), ("label", .required),
      ("exclude", .required), ("expand-tabs", .none), ("speed-large-files", .none),
      ("show-c-function", .none), ("no-dereference", .none), ("suppress-common-lines", .none),
      ("left-column", .none), ("ignore-matching-lines", .required)], checks := [
        ⟨["U", "C", "unified", "context", "W", "width"], 2, isDigits⟩,
        ⟨["color"], 2, fun v => ["never", "always", "auto"].contains v⟩] }
    2 args fun chosen names => do
    let styles := [has chosen ["u", "U", "unified"], has chosen ["c", "C", "context"],
      has chosen ["y", "side-by-side"], has chosen ["e", "ed"], has chosen ["n", "rcs"],
      has chosen ["normal"]]
    if 1 < styles.countP id then do
      warn "diff: conflicting output style options"
      pure 2
    else
      match names with
      | [a, b] => do
        let l : Likeness := {
          ignoreCase := has chosen ["i", "ignore-case"]
          ignoreBlanks := has chosen ["w", "ignore-all-space"]
          squeezeBlanks := has chosen ["b", "Z", "ignore-space-change", "ignore-trailing-space"]
          skipEmpty := has chosen ["B", "ignore-blank-lines"] }
        let code ← differ l (has chosen ["r", "recursive"]) (has chosen ["N", "new-file"])
          (has chosen ["q", "brief"]) 100 true a b
        if code = 0 && has chosen ["s", "report-identical-files"] then
          say ("Files " ++ a ++ " and " ++ b ++ " are identical\n")
        finishWith 2 code
      | _ => do
        warn "diff: missing operand"
        pure 2

end StreamSupervisor.Tool
