import StreamSupervisor.Shell.Builtin.Basic
import StreamSupervisor.Tool.Paths

/-! # Builtins for places

The directory in which a shell is, and the limits and rights of what it begins.
-/

namespace StreamSupervisor.Shell

open Machine

/-- A path without dots and without steps back, as its text tells. Two slashes at its front
stay, but more of them count as one. -/
def tidyPath (path : String) : String :=
  let front := if path.startsWith "//" && !path.startsWith "///" then "//" else "/"
  let names := (path.splitOn "/").foldl (fun (acc : List String) name =>
    if name == "" || name == "." then acc
    else if name == ".." then acc.drop 1
    else name :: acc) []
  front ++ "/".intercalate names.reverse

/-- Go to a directory, and remember from where. -/
def goTo (path : String) (physical : Bool) : Work (Option Refusal) := do
  let s ← get
  let tidy := tidyPath (if path.startsWith "/" then path else s.directory ++ "/" ++ path)
  match ← askDone (.enter (if physical then path else tidy)) with
  | .error why => pure (some why)
  | .ok () => do
    let here ← if physical then do
        match ← askText .whereAmI with
        | .ok d => pure d
        | .error _ => pure tidy
      else pure tidy
    let s ← get
    assign "OLDPWD" none s.directory true
    assign "PWD" none here true
    modify fun s => { s with directory := here }
    pure none

/-- The directories along which a relative path is looked for. -/
def searchPlaces (s : State) (path : String) : List String :=
  let isPlain := !path.startsWith "/" && path != "." && path != ".." &&
    !path.startsWith "./" && !path.startsWith "../"
  match (if isPlain then s.value? "CDPATH" else none) with
  | some places => if places.isEmpty then [""] else places.splitOn ":"
  | none => [""]

def changeDirectory (args : List String) : Work Nat := do
  let s ← get
  if s.isRich && s.has 'r' then do
    complain "cd: restricted"
    return 1
  let (chosen, words) ← builtinOptions (if s.isRich then "LPe@" else "LP") args
  let physical := match (chosen.map (·.name)).filter (fun n => n == "L" || n == "P") with
    | [] => s.isRich && s.has 'P'
    | names => names.getLast? == some "P"
  let cannot (path : String) (why : Refusal) : Work Nat := do
    if s.isRich then do
      complain ("cd: " ++ path ++ ": " ++ why.text)
      pure 1
    else misuse ("can't cd to " ++ path)
  let arrive (path : String) (tell : Bool) : Work (Except Refusal Nat) := do
    match ← goTo path physical with
    | some why => pure (.error why)
    | none => do
      let s ← get
      if tell then
        let code ← sayOut (s.directory ++ "\n")
        pure (.ok code)
      else pure (.ok 0)
  if s.isRich && 1 < words.length then do
    complain "cd: too many arguments"
    pure 1
  else
    let target? : Option (String × Bool) :=
      match words with
      | [] => ((s.value? "HOME").orElse fun _ => if s.isRich then none else some "").map fun h =>
          (h, false)
      | "-" :: _ => (s.value? "OLDPWD").map fun d => (d, true)
      | w :: _ => some (w, false)
    match target? with
    | none =>
      if s.isRich then do
        complain (if words.isEmpty then "cd: HOME not set" else "cd: OLDPWD not set")
        pure 1
      else
        match ← arrive "." false with
        | .ok code => pure code
        | .error why => cannot "" why
    | some (path, tell) => do
      if path.isEmpty && s.isRich && (s.value? "CDPATH").isNone then return 0
      let places := searchPlaces s path
      let path := if path.isEmpty then "." else path
      for place in places do
        let full := if place.isEmpty then path
          else if s.isRich && place.endsWith "/" then place ++ path
          else place ++ "/" ++ path
        let isDirectory ← match ← inspect? full true with
          | some i => pure (i.kind == .directory)
          | none => pure false
        if isDirectory then
          match ← arrive full (tell || !place.isEmpty) with
          | .ok code => return code
          | .error why => return (← cannot path why)
      match ← arrive path tell with
      | .ok code => pure code
      | .error why => cannot path why

def printDirectory (args : List String) : Work Nat := do
  let s ← get
  let (chosen, _) ← builtinOptions "LP" args
  if (chosen.getLast?.map (·.name)) == some "P" then
    match ← askText .whereAmI with
    | .ok d => sayOut (d ++ "\n")
    | .error _ => pure 1
  else sayOut (s.directory ++ "\n")

/-- Show or set the rights that new files do not get. -/
def maskRights (args : List String) : Work Nat := do
  let s ← get
  let (chosen, words) ← builtinOptions (if s.isRich then "pS" else "S") args
  let current ← askNumber (.mask none)
  let mask := match current with
    | .ok m => m
    | .error _ => 18
  match words with
  | [] =>
    let front := if !Tool.has chosen ["p"] then ""
      else if Tool.has chosen ["S"] then "umask -S " else "umask "
    if Tool.has chosen ["S"] then
      let rights (n : Nat) : String :=
        let kept := 7 - n % 8
        (if kept / 4 % 2 = 1 then "r" else "") ++ (if kept / 2 % 2 = 1 then "w" else "") ++
          (if kept % 2 = 1 then "x" else "")
      sayOut (front ++ "u=" ++ rights (mask / 64) ++ ",g=" ++ rights (mask / 8) ++ ",o=" ++ rights mask ++
        "\n")
    else
      let ds := digits 8 mask
      sayOut (front ++ String.ofList (List.replicate (4 - ds.length) '0') ++ ds ++ "\n")
  | word :: _ =>
    let new? : Option Nat :=
      if (word.toList.head?).any isDigit then
        if word.all (between '0' '7') then some ((takeDigits 8 word.toList 0 0).1 % 512) else none
      else (Tool.modeOf? word (511 - mask) 0 false).map fun m => 511 - m % 512
    match new? with
    | some m => do
      let _ ← Asking.ask (.mask (some m))
      pure 0
    | none =>
      if s.isRich then do
        complain ("umask: " ++ word ++ (if (word.toList.head?).any isDigit then
          ": octal number out of range" else ": invalid symbolic mode operator"))
        pure 1
      else misuse ((if (word.toList.head?).any isDigit then "Illegal number: "
        else "Illegal mode: ") ++ word)

/-! ## Limits -/

/-- What a letter limits, and in which unit the shell counts it. -/
def unitOf (s : State) (letter : Char) : Char × Nat :=
  if s.isRich then
    match letter with
    | 'c' | 'f' => (letter, if s.hasLong "posix" then 512 else 1024)
    | 'd' | 'l' | 'm' | 's' | 'v' => (letter, 1024)
    | _ => (letter, 1)
  else
    match letter with
    | 'c' | 'f' => (letter, 512)
    | 'd' | 'l' | 'm' | 's' | 'v' => (letter, 1024)
    | 'p' => ('u', 1)
    | 'w' => ('x', 1)
    | _ => (letter, 1)

def limitOf (letter : Char) : Work Limit := do
  match ← Asking.ask (.limit letter none) with
  | .limit l => pure l
  | _ => pure {}

/-- A limit as it is shown. -/
def shownLimit (unit : Nat) (value : Option Nat) : String :=
  match value with
  | some n => toString (n / unit)
  | none => "unlimited"

/-- Set what is meant of a limit, and say whether that is possible. -/
def changeLimit (letter : Char) (soft hard : Bool) (value : Option Nat) : Work Bool := do
  let old ← limitOf letter
  let new : Limit := ⟨if soft then value else old.soft, if hard then value else old.hard⟩
  match ← Asking.ask (.limit letter (some new)) with
  | .done => pure true
  | _ => pure false

/-- The limits that the plain shell lists. -/
def listedLimits : List (Char × String) :=
  [('t', "time(seconds)"), ('f', "file(blocks)"), ('d', "data(kbytes)"), ('s', "stack(kbytes)"),
    ('c', "coredump(blocks)"), ('m', "memory(kbytes)"), ('l', "locked memory(kbytes)"),
    ('p', "process"), ('n', "nofiles"), ('v', "vmemory(kbytes)"), ('w', "locks"),
    ('r', "rtprio")]

def plainLimits (args : List String) : Work Nat := do
  let s ← get
  let (chosen, words) ← builtinOptions "HSatfdscmlpnvwr" args
  let names := chosen.map (·.name)
  let how := (names.filter fun n => n == "H" || n == "S").getLast?
  let letter := (((names.filter fun n => ! ["H", "S", "a"].contains n).getLast?).getD "f").toList
  let (resource, unit) := unitOf s (letter.headD 'f')
  match words with
  | [] =>
    if names.contains "a" then do
      for l in listedLimits do
        let (resource, unit) := unitOf s l.1
        let v ← limitOf resource
        let gap := String.ofList (List.replicate (20 - l.2.length) ' ')
        let _ ← sayOut (l.2 ++ gap ++ " " ++
          shownLimit unit (if how == some "H" then v.hard else v.soft) ++ "\n")
      pure 0
    else do
      let v ← limitOf resource
      sayOut (shownLimit unit (if how == some "H" then v.hard else v.soft) ++ "\n")
  | word :: more =>
    if names.contains "a" || !more.isEmpty then misuse "too many arguments"
    else if word != "unlimited" && !(word.all isDigit) then misuse "bad number"
    else do
      let value := if word == "unlimited" then none else some (unit * (word.toNat?.getD 0))
      let ok ← changeLimit resource (how != some "H") (how != some "S") value
      if ok then pure 0 else misuse "error setting limit"

/-- The letters of limits in some arguments, each with the value that it is given. -/
def limitChoices : Nat → List String → List (Char × Option String) →
    Option (List (Char × Option String) × List String)
  | 0, args, acc => some (acc.reverse, args)
  | _ + 1, [], acc => some (acc.reverse, [])
  | n + 1, a :: rest, acc =>
    match a.toList with
    | ['-', '-'] => some (acc.reverse, rest)
    | '-' :: c :: cs =>
      let rec letters : List Char → List (Char × Option String) →
          Option (List (Char × Option String) × Bool)
        | [], acc => some (acc, true)
        | c :: cs, acc =>
          if "SHa".toList.contains c then letters cs ((c, none) :: acc)
          else if "bcdefiklmnpqrstuvxPRT".toList.contains c then
            if cs.isEmpty then some ((c, none) :: acc, false)
            else if cs.all isDigit then some ((c, some (String.ofList cs)) :: acc, true)
            else letters cs ((c, none) :: acc)
          else none
      match letters (c :: cs) acc with
      | none => none
      | some (acc, true) => limitChoices n rest acc
      | some (acc, false) =>
        match acc, rest with
        | (c, _) :: before, value :: more =>
          if value.startsWith "-" then limitChoices n rest acc
          else limitChoices n more ((c, some value) :: before)
        | _, _ => limitChoices n rest acc
    | _ => some (acc.reverse, a :: rest)

def richLimits (args : List String) : Work Nat := do
  let s ← get
  match limitChoices (args.length + 1) args [] with
  | none => misuse (args.headD "" ++ ": invalid option")
  | some (chosen, words) => do
    let has (c : Char) : Bool := chosen.any (·.1 == c)
    let soft := has 'S' || !has 'H'
    let hard := has 'H' || !has 'S'
    let wanted := chosen.filter fun c => !("SHa".toList.contains c.1)
    if has 'a' then do
      for letter in "cdefilmnqrstuvx".toList do
        let (resource, unit) := unitOf s letter
        let v ← limitOf resource
        let _ ← sayOut ("(-" ++ letter.toString ++ ") " ++
          shownLimit unit (if has 'H' then v.hard else v.soft) ++ "\n")
      pure 0
    else do
      let wanted := if wanted.isEmpty then [('f', words.head?)] else wanted
      let mut code := 0
      for (letter, given) in wanted do
        let (resource, unit) := unitOf s letter
        let v ← limitOf resource
        match given with
        | none =>
          let shown := if letter == 'p' then "8"
            else shownLimit unit (if has 'H' then v.hard else v.soft)
          let c ← sayOut ((if 1 < wanted.length then "(-" ++ letter.toString ++ ") " else "") ++
            shown ++ "\n")
          if c != 0 then code := c
        | some word =>
          let value? : Option (Option Nat) :=
            if word == "unlimited" then some none
            else if word == "hard" then some v.hard
            else if word == "soft" then some v.soft
            else if isDigits word then some (some (unit * (word.toNat?.getD 0)))
            else none
          match value? with
          | none => do
            complain ("ulimit: " ++ word ++ ": invalid number")
            return 1
          | some value => do
            let ok ← changeLimit resource soft hard value
            if !ok then do
              complain "ulimit: cannot modify limit"
              return 1
      pure code

/-- Show or set limits. -/
def limits (args : List String) : Work Nat := do
  let s ← get
  if s.isRich then richLimits args else plainLimits args

/-! ## The stack of directories -/

/-- The variable under which the stack is kept. -/
def stackName : String := "DIRSTACK"

def stackOf (s : State) : List String :=
  match s.binding? stackName with
  | some v => (State.elementsOf v).map (·.2)
  | none => []

def setStack (dirs : List String) : Work Unit := modify fun s =>
  s.setVariable stackName
    { elements := some ((List.range dirs.length).zip dirs |>.map fun d => (toString d.1, d.2)) }

/-- A directory as it is shown: the home directory is written as a tilde. -/
def shownPlace (s : State) (long : Bool) (path : String) : String :=
  match s.value? "HOME" with
  | some home =>
    if long || home.isEmpty || home == "/" then path
    else if path == home then "~"
    else if path.startsWith (home ++ "/") then "~" ++ dropChars home.length path
    else path
  | none => path

/-- The place in the stack that a word tells, counted from the left or from the right. -/
def placeInStack? (size : Nat) (word : String) : Option Nat :=
  match word.toList with
  | sign :: ds =>
    let n := (String.ofList ds).toNat?.getD 0
    if !isDigits (String.ofList ds) || size ≤ n then none
    else if sign == '+' then some n
    else if sign == '-' then some (size - 1 - n)
    else none
  | [] => none

/-- Whether a word tells a place in the stack. -/
def isStackPlace (word : String) : Bool :=
  (word.startsWith "+" || word.startsWith "-") && isDigits (dropChars 1 word)

/-- Show the stack, or one place of it, or empty it. -/
def showStack (args : List String) : Work Nat := do
  let s ← get
  let letters := (args.filter fun a => a.startsWith "-" && !isStackPlace a).flatMap fun a =>
    a.toList.drop 1
  let places := args.filter isStackPlace
  let all := s.directory :: stackOf s
  if letters.any fun c => !"clpv".toList.contains c then misuse "invalid option"
  else if args.any fun a => !(a.startsWith "-" || a.startsWith "+") then do
    complain ("dirs: " ++ (args.find? fun a => !(a.startsWith "-" || a.startsWith "+")).getD "" ++
      ": invalid argument")
    pure 1
  else if letters.contains 'c' then do
    setStack []
    pure 0
  else
    let show_ := shownPlace s (letters.contains 'l')
    match places.head? with
    | some word =>
      match placeInStack? all.length word with
      | some n => sayOut (show_ (all[n]?.getD "") ++ "\n")
      | none => do
        complain ("dirs: " ++ word ++ ": directory stack index out of range")
        pure 1
    | none =>
      if letters.contains 'v' then
        sayOut (String.join (all.zipIdx.map fun d =>
          (if d.2 < 10 then " " else "") ++ toString d.2 ++ "  " ++ show_ d.1 ++ "\n"))
      else if letters.contains 'p' then sayOut (String.join (all.map fun d => show_ d ++ "\n"))
      else sayOut (" ".intercalate (all.map show_) ++ "\n")

/-- Take a stack over whose first directory is where to go. -/
def takeStack (name : String) (dirs : List String) : Work Nat := do
  match dirs with
  | [] => pure 0
  | top :: rest =>
    match ← goTo top false with
    | some why => do
      complain (name ++ ": " ++ top ++ ": " ++ why.text)
      pure 1
    | none => do
      setStack rest
      showStack []

def pushDirectory (args : List String) : Work Nat := do
  let s ← get
  if s.has 'r' then do
    complain "pushd: restricted"
    return 1
  let stays := args.contains "-n"
  let args := args.filter fun a => a != "-n" && a != "--"
  let all := s.directory :: stackOf s
  match args with
  | [] =>
    match stackOf s with
    | top :: rest => takeStack "pushd" (top :: s.directory :: rest)
    | [] => do
      complain "pushd: no other directory"
      pure 1
  | [word] =>
    if isStackPlace word then
      match placeInStack? all.length word with
      | some n =>
        if stays then showStack [] else takeStack "pushd" (all.drop n ++ all.take n)
      | none => do
        complain ("pushd: " ++ word ++ ": directory stack index out of range")
        pure 1
    else if stays then do
      setStack (word :: stackOf s)
      showStack []
    else if word.startsWith "-" && word != "-" then misuse (word ++ ": invalid number")
    else takeStack "pushd" ((if word == "-" then (s.value? "OLDPWD").getD "" else word) :: all)
  | _ => do
    complain "pushd: too many arguments"
    pure 1

def popDirectory (args : List String) : Work Nat := do
  let s ← get
  let stays := args.contains "-n"
  let args := args.filter fun a => a != "-n" && a != "--"
  let all := s.directory :: stackOf s
  let dropAt (n : Nat) : Work Nat := do
    let n := if stays && n = 0 then 1 else n
    let rest := all.eraseIdx n
    if n = 0 then takeStack "popd" rest
    else do
      setStack (rest.drop 1)
      showStack []
  if (stackOf s).isEmpty then do
    complain "popd: directory stack empty"
    pure 1
  else
    match args with
    | [] => dropAt 0
    | word :: _ =>
      if isStackPlace word then
        match placeInStack? all.length word with
        | some n => dropAt n
        | none => do
          complain ("popd: " ++ word ++ ": directory stack index out of range")
          pure 1
      else misuse (word ++ ": invalid argument")

end StreamSupervisor.Shell
