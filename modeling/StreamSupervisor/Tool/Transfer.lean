import StreamSupervisor.Text.Quoting
import StreamSupervisor.Tool.Paths
import StreamSupervisor.Tool.Starters

/-! # Transfers

Programs that copy, move and link files. What a target that is there already means for them
is settled once for all of them: it may be kept, asked about, put aside or taken away.
-/

namespace StreamSupervisor.Tool

open Machine

/-- A name as it stands in messages. -/
def quoted (name : String) : String := Quoting.shown name

/-! ## Putting files aside -/

/-- How the names of files that are put aside are made. -/
inductive BackupNames where
  | simple
  | numbered
  /-- Numbered if there are numbered ones already. -/
  | existing
deriving DecidableEq

/-- The way that a word stands for; the outer nothing marks a word that stands for none. -/
def backupNames? (word : String) : Option (Option BackupNames) :=
  match wordFor ["none", "off", "simple", "never", "existing", "nil", "numbered", "t"] word with
  | "none" | "off" => some none
  | "simple" | "never" => some (some .simple)
  | "existing" | "nil" => some (some .existing)
  | "numbered" | "t" => some (some .numbered)
  | _ => none

/-- The numbers of the files that were put aside for a path. -/
def backupNumbers (path : String) : Chore (List Nat) := do
  match ← askNames (.list (directoryName path)) with
  | .error _ => pure []
  | .ok names =>
    let front := baseName path ++ ".~"
    pure (names.filterMap fun n =>
      if n.startsWith front && n.endsWith "~" then
        ((dropChars front.length n).dropEnd 1).toString.toNat?
      else none)

/-- The name under which a file is put aside. -/
def backupName (how : BackupNames) (ending path : String) : Chore String := do
  let numbers ← if how = .simple then pure [] else backupNumbers path
  if how = .simple || how = .existing && numbers.isEmpty then pure (path ++ ending)
  else pure (path ++ ".~" ++ toString (numbers.foldl Nat.max 0 + 1) ++ "~")

/-! ## Plans -/

/-- Which links among the sources are followed. -/
inductive LinkPolicy where
  | all
  | named
  | none
deriving DecidableEq

/-- What becomes of a target that is there already. -/
inductive Clobber where
  | replace
  | keep
  | ask
deriving DecidableEq

structure Transfer where
  title : String
  moves : Bool := false
  recursive : Bool := false
  links : LinkPolicy := .all
  clobber : Clobber := .replace
  /-- Whether a target that cannot be opened is taken away. -/
  force : Bool := false
  removesFirst : Bool := false
  backups : Option BackupNames := none
  ending : String := "~"
  newerOnly : Bool := false
  verbose : Bool := false
  symbolic : Bool := false
  hard : Bool := false
  /-- Whether only the attributes are copied, and not the text. -/
  attributesOnly : Bool := false
  keepsMode : Bool := false
  keepsTime : Bool := false
  /-- Whether special files are copied as what can be read from them. -/
  asPlain : Bool := true

namespace Transfer

def complain (t : Transfer) (text : String) : Chore Bool := do
  warn (t.title ++ ": " ++ text)
  pure false

/-- Tell what is being done to which file. -/
def announce (t : Transfer) (source target : String) (backup : Option String) : Chore Unit :=
  if !t.verbose then pure ()
  else
    let aside := match backup with
      | some b => " (backup: " ++ quoted b ++ ")"
      | none => ""
    say ((if t.moves then "renamed " else "") ++ quoted source ++ " -> " ++ quoted target ++
      aside ++ "\n")

def announceRemoval (t : Transfer) (target : String) : Chore Unit :=
  if t.verbose then say ("removed " ++ quoted target ++ "\n") else pure ()

end Transfer

/-- The bits that new files do not get. -/
def fileMask : Chore Nat := do
  match ← Asking.ask (.mask none) with
  | .number n => pure n
  | _ => pure 18

/-- Whether two paths name the same entry of the same directory. -/
def isSameName (a b : String) : Chore Bool := do
  let place (path : String) : Chore (Option Nat) := do
    let i ← inspect? (directoryName path) true
    pure (i.map (·.node))
  pure (baseName a == baseName b && (← place a) == (← place b))

/-- Whether a source may be brought to a target that is there, as far as both may be one and the
same file; the second flag says that nothing is left to be done. -/
def Transfer.mayShare (t : Transfer) (source target : String) : Chore (Bool × Bool) := do
  let some a ← inspect? source false | return (true, false)
  let some b ← inspect? target false | return (true, false)
  let followed ← inspect? source true
  let reached ← inspect? target true
  let sameReached : Bool := match followed, reached with
    | some x, some y => x.node == y.node
    | _, _ => false
  let sameEntry := a.node == b.node
  let sameName ← isSameName source target
  let aLink := a.kind = .link
  let bLink := b.kind = .link
  let same := if t.links = .none then sameEntry else sameReached
  if same && t.hard then return (true, true)
  if t.links = .none && aLink && bLink then
    if sameName then return (false, false)
    if t.backups.isSome then return (true, false)
    if sameEntry then return (!t.moves, true)
    return (true, false)
  if t.links != .none then
    if !sameReached then return (true, false)
    if aLink && bLink && t.removesFirst then return (true, false)
  if t.backups.isSome then
    if !sameEntry then
      return (!(!t.moves && t.links != .none && aLink && !bLink), false)
    return (!sameName, false)
  if t.moves || t.removesFirst then
    if bLink then return (true, false)
    if sameEntry && 1 < b.names && !sameName then return (!t.moves, false)
  if !aLink && !bLink && !sameEntry then return (true, false)
  if t.symbolic && bLink then return (true, false)
  if t.links = .none && !sameReached then return (true, false)
  pure (false, false)

/-! ## Copying -/

/-- Copy what can be read from a plain file, or from anything that is taken for one. -/
def Transfer.copyText (t : Transfer) (source target : String) (i : FileInfo) (isNew : Bool) :
    Chore Bool := do
  match ← openFile source .reading with
  | .error why =>
    t.complain ("cannot open " ++ quoted source ++ " for reading: " ++ why.text)
  | .ok a => do
    let fresh : Opening := { writable := true, create := true, exclusive := true }
    let old : Opening := { writable := true, truncate := !t.attributesOnly }
    let first ← openFile target (if isNew then fresh else old)
    let (opened, isNew) ← match first, isNew with
      | .error _, false =>
        if t.force then do
          match ← askDone (.unlink target) with
          | .ok () => do
            t.announceRemoval target
            let d ← openFile target fresh
            pure (d, true)
          | .error _ => pure (first, false)
        else pure (first, false)
      | _, _ => pure (first, isNew)
    match opened with
    | .error .alreadyThere => do
      close a
      t.complain ("not writing through dangling symlink " ++ quoted target)
    | .error why => do
      close a
      t.complain ("cannot create regular file " ++ quoted target ++ ": " ++ why.text)
    | .ok b => do
      let rec go : Nat → Chore Bool
        | 0 => pure true
        | k + 1 => do
          match ← Asking.ask (.read a blockSize) with
          | .text s =>
            if s.isEmpty then pure true
            else
              match ← write b s with
              | .ok () => go k
              | .error why => t.complain ("error writing " ++ quoted target ++ ": " ++ why.text)
          | .interrupted => go k
          | .refused why => t.complain ("error reading " ++ quoted source ++ ": " ++ why.text)
          | _ => pure true
      let ok ← if t.attributesOnly then pure true else go endless
      close a
      close b
      if t.keepsMode then
        let _ ← askDone (.changeMode target i.mode)
      else if isNew then
        let mode := i.mode &&& 511
        let mask ← fileMask
        let _ ← askDone (.changeMode target (mode - (mode &&& mask)))
      if t.keepsTime then
        let _ ← askDone (.touch target (some i.changed))
      pure ok

/-- Take a target that is in the way aside, or away; nothing comes out if that failed. -/
def Transfer.clear (t : Transfer) (source target : String) (i there : FileInfo) :
    Chore (Option (Bool × Option String)) := do
  let last := baseName target
  let isDots := last == "." || last == ".."
  match t.backups with
  | some how =>
    if isDots || there.kind = .directory && !t.moves then pure (some (false, none))
    else do
      let name ← backupName how t.ending target
      if name == source then do
        let _ ← t.complain ("backing up " ++ quoted target ++ " might destroy source;  " ++
          quoted source ++ (if t.moves then " not moved" else " not copied"))
        pure none
      else
        match ← askDone (.rename target name) with
        | .ok () => pure (some (true, some name))
        | .error why => do
          let _ ← t.complain ("cannot backup " ++ quoted target ++ ": " ++ why.text)
          pure none
  | none =>
    if t.moves || there.kind = .directory then pure (some (false, none))
    else if t.removesFirst || t.links = .none && i.kind != .plain then
      match ← askDone (.unlink target) with
      | .ok () => do
        t.announceRemoval target
        pure (some (true, none))
      | .error why => do
        let _ ← t.complain ("cannot remove " ++ quoted target ++ ": " ++ why.text)
        pure none
    else pure (some (false, none))

/-- Make a link that leads to a source. -/
def Transfer.linkTo (t : Transfer) (source target : String) : Chore Bool := do
  let inside := !target.contains '/' || directoryName target == "."
  let here ← if inside then pure true
    else do
      let x ← inspect? "." true
      let y ← inspect? (directoryName target) true
      pure (x.map (·.node) == y.map (·.node))
  if !source.startsWith "/" && !here then
    t.complain (quoted target ++ ": can make relative symbolic links only in current directory")
  else
    match ← askDone (.makeLink source target) with
    | .ok () => pure true
    | .error .alreadyThere =>
      if t.force || t.removesFirst then do
        let _ ← askDone (.unlink target)
        match ← askDone (.makeLink source target) with
        | .ok () => pure true
        | .error why => t.complain ("cannot create symbolic link " ++ quoted target ++ ": " ++ why.text)
      else
        t.complain ("cannot create symbolic link " ++ quoted target ++ ": File exists")
    | .error why => t.complain ("cannot create symbolic link " ++ quoted target ++ ": " ++ why.text)

/-- Bring a source to a target for which the way is free. What brings the files below a
directory is given. -/
def Transfer.place (t : Transfer) (deeper : List Nat → String → String → Chore Bool)
    (made : List Nat) (source target : String) (i : FileInfo) (isNew : Bool)
    (backup : Option String) : Chore Bool := do
  if t.moves then
    match ← askDone (.rename source target) with
    | .ok () => do
      t.announce source target backup
      pure true
    | .error .invalid =>
      t.complain ("cannot move " ++ quoted source ++ " to a subdirectory of itself, " ++
        quoted target)
    | .error why =>
      t.complain ("cannot move " ++ quoted source ++ " to " ++ quoted target ++ ": " ++ why.text)
  else if i.kind = .directory then do
    let mask ← fileMask
    let r ← if isNew then do
        let r ← askDone (.makeDirectory target (i.mode ||| 448))
        match r with
        | .ok () => t.announce source target none
        | .error _ => pure ()
        pure r
      else pure (.ok ())
    match r with
    | .error why => t.complain ("cannot create directory " ++ quoted target ++ ": " ++ why.text)
    | .ok () => do
      let node ← if isNew then inspect? target true else pure none
      let made := match node with
        | some x => x.node :: made
        | none => made
      let ok ← match ← askNames (.list source) with
        | .error why => t.complain ("cannot access " ++ quoted source ++ ": " ++ why.text)
        | .ok names => do
          let mut ok := true
          for e in names do
            let here ← deeper made (joinPath source e) (joinPath target e)
            ok := ok && here
          pure ok
      if t.keepsMode then
        let _ ← askDone (.changeMode target i.mode)
      else if isNew then
        let mode := i.mode &&& 1023
        let _ ← askDone (.changeMode target (mode - (mode &&& mask)))
      if t.keepsTime then
        let _ ← askDone (.touch target (some i.changed))
      pure ok
  else do
    t.announce source target backup
    if t.symbolic then t.linkTo source target
    else if t.hard then
      let attempt := askDone (.hardLink source target)
      match ← attempt with
      | .ok () => pure true
      | .error .alreadyThere =>
        if t.force || t.removesFirst then do
          let _ ← askDone (.unlink target)
          match ← attempt with
          | .ok () => pure true
          | .error why =>
            t.complain ("cannot create hard link " ++ quoted target ++ ": " ++ why.text)
        else t.complain ("cannot create hard link " ++ quoted target ++ ": File exists")
      | .error why => t.complain ("cannot create hard link " ++ quoted target ++ ": " ++ why.text)
    else
      match i.kind with
      | .link => do
        match ← askText (.readLink source) with
        | .error why => t.complain ("cannot read symbolic link " ++ quoted source ++ ": " ++ why.text)
        | .ok goal =>
          match ← askDone (.makeLink goal target) with
          | .ok () => pure true
          | .error why =>
            t.complain ("cannot create symbolic link " ++ quoted target ++ ": " ++ why.text)
      | .queue =>
        if t.asPlain then t.copyText source target i isNew
        else
          match ← askDone (.makeQueue target i.mode) with
          | .ok () => pure true
          | .error why => t.complain ("cannot create fifo " ++ quoted target ++ ": " ++ why.text)
      | .characters =>
        if t.asPlain then t.copyText source target i isNew
        else
          t.complain ("cannot create special file " ++ quoted target ++
            ": Operation not permitted")
      | _ => t.copyText source target i isNew

/-- Bring a source to a target. The nodes are those of the directories that were made on the
way, into which nothing of them is copied again; the list holds the targets made before. -/
def Transfer.bring (t : Transfer) : Nat → Bool → List Nat → List String → String → String →
    Chore Bool
  | 0, _, _, _, source, _ => t.complain (quoted source ++ ": too deep")
  | n + 1, named, made, earlier, source, target => do
    let follow := t.links = .all || t.links = .named && named
    let deeper (made : List Nat) (source target : String) : Chore Bool :=
      t.bring n false made earlier source target
    match ← inspect source follow with
    | .error why => t.complain ("cannot stat " ++ quoted source ++ ": " ++ why.text)
    | .ok i =>
      let isDirectory := i.kind = .directory
      if isDirectory && !t.recursive && !t.moves then
        t.complain ("-r not specified; omitting directory " ++ quoted source)
      else if made.contains i.node then
        t.complain ("cannot copy a directory, " ++ quoted (directoryName source) ++
          ", into itself, " ++ quoted target)
      else do
        let entry? ← inspect? target false
        let reached? ← if t.moves || t.links = .none || t.removesFirst then pure entry?
          else do
            let r ← inspect? target true
            pure (r <|> entry?)
        let isDangling := entry?.any (·.kind = .link) && (← inspect? target true).isNone
        match reached? with
        | none => t.place deeper made source target i true none
        | some there => do
          let (may, isDone) ← t.mayShare source target
          if !may then
            t.complain (quoted source ++ " and " ++ quoted target ++ " are the same file")
          else if isDone then pure true
          else if t.newerOnly && !isDirectory && i.changed ≤ there.changed then pure true
          else if t.clobber = .keep && (t.moves || !isDirectory) then pure true
          else if !(← agreed (t.clobber = .ask && (t.moves || !isDirectory))
              (t.title ++ ": overwrite " ++ quoted target ++ "? ")) then pure true
          else if there.kind != .directory && isDirectory && !(t.moves && t.backups.isSome) then
            t.complain ("cannot overwrite non-directory " ++ quoted target ++ " with directory " ++
              quoted source)
          else if there.kind = .directory && !isDirectory && !(t.moves && t.backups.isSome) then
            t.complain ("cannot overwrite directory " ++ quoted target ++ " with non-directory")
          else if named && earlier.contains target && t.backups != some .numbered &&
              !isDirectory then
            t.complain ("will not overwrite just-created " ++ quoted target ++ " with " ++
              quoted source)
          else do
            match ← t.clear source target i there with
            | none => pure false
            | some (gone, backup) =>
              t.place deeper made source target i (gone || isDangling) backup
/-! ## Sources and targets -/

/-- A path without the slashes behind it. -/
def withoutSlashes (path : String) : String :=
  let cs := path.toList.reverse.dropWhile (· == '/')
  if cs.isEmpty then path else String.ofList cs.reverse

/-- Where each source goes: to the last operand, or into it if it is a directory. -/
def destinations (title : String) (intoDirectory : Option String) (asFile follow : Bool)
    (names : List String) : Chore (Option (List (String × String))) := do
  let wrong (why : String) : Chore (Option (List (String × String))) := do
    warn (title ++ ": " ++ why)
    pure none
  let isDirectory (path : String) : Chore Bool := do
    let i ← inspect? path follow
    pure (i.any (·.kind = .directory))
  let into (d : String) (sources : List String) : List (String × String) :=
    sources.map fun s =>
      let last := baseName s
      (s, if last == ".." then d else joinPath d last)
  match intoDirectory with
  | some d =>
    if names.isEmpty then wrong "missing file operand"
    else if asFile then wrong "cannot combine --target-directory and --no-target-directory"
    else if !(← isDirectory d) then wrong ("target directory " ++ quoted d ++ ": Not a directory")
    else pure (some (into d names))
  | none =>
    match names with
    | [] => wrong "missing file operand"
    | [_] => wrong "missing destination file operand"
    | names => do
      let target := names.getLastD ""
      let sources := names.dropLast
      if asFile then
        if 1 < sources.length then wrong ("extra operand " ++ quoted target)
        else pure (some (sources.map fun s => (s, target)))
      else if ← isDirectory target then pure (some (into target sources))
      else if 1 < sources.length then wrong ("target " ++ quoted target ++ ": Not a directory")
      else pure (some (sources.map fun s => (s, target)))

/-- Bring each source to its target. -/
def Transfer.bringAll (t : Transfer) (pairs : List (String × String)) : Chore Bool := do
  let mut ok := true
  let mut earlier : List String := []
  let mut seen : List String := []
  for (source, target) in pairs do
    let mut again := false
    if !t.moves then
      for other in seen do
        if ← isSameName other source then again := true
    if again && (← inspect? source true).isSome then
      warn (t.title ++ ": warning: source file " ++ quoted source ++ " specified more than once")
    else
      let here ← t.bring 200 true [] earlier source target
      ok := ok && here
      earlier := target :: earlier
      seen := source :: seen
  pure ok

/-- The way in which files are put aside that options ask for; the outer nothing marks a word
that stands for no way. -/
def backupsOf (chosen : List Choice) (environment : List String) :
    Option (Option BackupNames × String) :=
  let asked := has chosen ["b", "backup", "S", "suffix"]
  let word := ((chosen.filter (·.name == "backup")).filterMap (·.value)).getLast?.orElse
    fun _ => environmentValue? environment "VERSION_CONTROL"
  let ending := (valueOf? chosen ["S", "suffix"]).orElse
    fun _ => environmentValue? environment "SIMPLE_BACKUP_SUFFIX"
  let ending := match ending with
    | some e => if e.isEmpty || e.contains '/' then "~" else e
    | none => "~"
  if !asked then some (none, ending)
  else
    match word with
    | none | some "" => some (some .existing, ending)
    | some w => (backupNames? w).map fun how => (how, ending)

/-- What the options say about targets that are there: the last one of some counts. -/
def clobberOf (chosen : List Choice) (names : List String) : Clobber :=
  match ((chosen.filter fun c => names.contains c.name).map (·.name)).getLast? with
  | some "i" | some "interactive" => .ask
  | some "n" | some "no-clobber" => .keep
  | _ => .replace

def move (args environment : List String) : Chore Nat :=
  withOptions { letters := "bfint:uvS:TZ", long := [("force", .none), ("interactive", .none),
    ("no-clobber", .none), ("target-directory", .required), ("no-target-directory", .none),
    ("update", .none), ("verbose", .none), ("backup", .optional), ("suffix", .required),
    ("strip-trailing-slashes", .none), ("context", .none)] } 1 args fun chosen names => do
    let some (backups, ending) := backupsOf chosen environment
      | do
        warn "mv: invalid backup type"
        return 1
    let names := if has chosen ["strip-trailing-slashes"] then names.map withoutSlashes else names
    let clobber := clobberOf chosen
      ["f", "force", "i", "interactive", "n", "no-clobber"]
    if backups.isSome && clobber = .keep then do
      warn "mv: options --backup and --no-clobber are mutually exclusive"
      return 1
    match ← destinations "mv" (valueOf? chosen ["t", "target-directory"])
        (has chosen ["T", "no-target-directory"]) true names with
    | none => pure 1
    | some pairs => do
      let t : Transfer := {
        title := "mv", moves := true, recursive := true, links := .none, clobber := clobber
        backups := backups, ending := ending, newerOnly := has chosen ["u", "update"]
        verbose := has chosen ["v", "verbose"] }
      let ok ← t.bringAll pairs
      finish (if ok then 0 else 1)

/-- What the values of the option for preserving stand for; nothing if there is another word. -/
def preservedBy (values : List String) : Option (List String) :=
  let words := ["mode", "timestamps", "ownership", "links", "context", "xattr", "all"]
  let all := values.flatMap (·.splitOn ",")
  if all.all (isOneOf words) then some (all.map (wordFor words)) else none

def copyFiles (args environment : List String) : Chore Nat :=
  withOptions { letters := "abdfHilLnprst:uvxPRS:TZ", long := [("archive", .none),
    ("recursive", .none), ("force", .none), ("interactive", .none), ("no-clobber", .none),
    ("preserve", .optional), ("no-preserve", .required), ("parents", .none),
    ("target-directory", .required), ("no-target-directory", .none), ("update", .none),
    ("verbose", .none), ("backup", .optional), ("link", .none), ("symbolic-link", .none),
    ("dereference", .none), ("no-dereference", .none), ("sparse", .required),
    ("reflink", .optional), ("remove-destination", .none), ("suffix", .required),
    ("one-file-system", .none), ("attributes-only", .none), ("context", .optional),
    ("strip-trailing-slashes", .none), ("copy-contents", .none), ("path", .none)], checks := [
      .words ["sparse"] ["never", "auto", "always"],
      .words ["reflink"] ["auto", "always", "never"]] } 1 args fun chosen names => do
    let fail (why : String) : Chore Nat := do
      warn ("cp: " ++ why)
      pure 1
    let some (backups, ending) := backupsOf chosen environment | fail "invalid backup type"
    let names := if has chosen ["strip-trailing-slashes"] then names.map withoutSlashes else names
    let clobber := clobberOf chosen ["i", "interactive", "n", "no-clobber"]
    let archive := has chosen ["a", "archive"]
    let values := (chosen.filter (·.name == "preserve")).map (·.value)
    let some kept := preservedBy (values.filterMap id) | fail "invalid argument"
    let some dropped := preservedBy ((chosen.filter (·.name == "no-preserve")).filterMap (·.value))
      | fail "invalid argument"
    let keeps (what : String) : Bool :=
      !(dropped.contains what || dropped.contains "all") &&
        (archive || has chosen ["p"] || values.contains none || kept.contains what ||
          kept.contains "all")
    let recursive := archive || has chosen ["r", "R", "recursive"]
    let hard := has chosen ["l", "link"]
    let symbolic := has chosen ["s", "symbolic-link"]
    let asked := ((chosen.filter fun c => ["L", "dereference", "P", "no-dereference", "H", "d", "a",
      "archive"].contains c.name).map (·.name)).getLast?
    let links : LinkPolicy := match asked with
      | some "L" | some "dereference" => .all
      | some "H" => .named
      | some _ => .none
      | none => if recursive && !hard then .none else .all
    let clones := (chosen.filter (·.name == "reflink")).getLast?.any fun c =>
      c.value.all fun v => isOneOf ["always"] v && !isOneOf ["auto"] v
    if hard && symbolic then fail "cannot make both hard and symbolic links"
    else if clones then fail "failed to clone: Operation not supported"
    else if backups.isSome && clobber = .keep then
      fail "options --backup and --no-clobber are mutually exclusive"
    else do
      let t : Transfer := {
        title := "cp", recursive := recursive, links := links, clobber := clobber
        force := has chosen ["f", "force"], removesFirst := has chosen ["remove-destination"]
        backups := backups, ending := ending, newerOnly := has chosen ["u", "update"]
        verbose := has chosen ["v", "verbose"], symbolic := symbolic, hard := hard
        attributesOnly := has chosen ["attributes-only"]
        keepsMode := keeps "mode", keepsTime := keeps "timestamps"
        asPlain := !recursive || has chosen ["copy-contents"] }
      let intoDirectory := valueOf? chosen ["t", "target-directory"]
      let asFile := has chosen ["T", "no-target-directory"]
      if has chosen ["parents", "path"] then
        let (into, sources) : Option String × List String := match intoDirectory with
          | some d => (some d, names)
          | none => (names.getLast?, names.dropLast)
        match into with
        | none => fail "missing file operand"
        | some d => do
          let known ← inspect? d true
          if sources.isEmpty then fail "missing destination file operand"
          else if !known.any (·.kind = .directory) || asFile then
            fail "with --parents, the destination must be a directory"
          else do
            let mut ok := true
            for source in sources do
              let clean := withoutSlashes source
              let reached ← if (← inspect? source true).isSome then
                  withParents t clean d
                else pure true
              let here ← if reached then
                  t.bring 200 true [] [] source (joinPath d clean)
                else pure false
              ok := ok && here
            finish (if ok then 0 else 1)
      else
        match ← destinations "cp" intoDirectory asFile true names with
        | none => pure 1
        | some pairs => do
          /- A file that is forced onto itself is copied to the name of its backup. -/
          let pairs ← match t.backups, pairs with
            | some how, [(a, b)] =>
              if t.force && a == b && (← inspect? a true).any (·.kind = .plain) then do
                let name ← backupName how ending b
                pure [(a, name)]
              else pure pairs
            | _, pairs => pure pairs
          let isOnto := pairs.length = 1 && names.length = 2 && t.force &&
            names.head? == names.getLast?
          let t := if isOnto then { t with backups := none } else t
          let ok ← t.bringAll pairs
          finish (if ok then 0 else 1)
where
  /-- Make the directories of a source below another directory. -/
  withParents (t : Transfer) (source d : String) : Chore Bool := do
    let parts := (source.splitOn "/").dropLast
    let mut ok := true
    for k in List.range parts.length do
      let front := "/".intercalate (parts.take (k + 1))
      let path := joinPath d front
      if ok && !front.isEmpty then
        match ← inspect? path true with
        | some i => if i.kind != .directory then ok := false
        | none =>
          match ← askDone (.makeDirectory path 511) with
          | .ok () =>
            let old ← inspect? front true
            if let some i := old then
              let mask ← fileMask
              let mode := i.mode &&& 511
              let _ ← askDone (.changeMode path (mode - (mode &&& mask)))
            if t.verbose then say (front ++ " -> " ++ path ++ "\n")
          | .error why => ok ← t.complain ("cannot make directory " ++ quoted path ++ ": " ++ why.text)
    pure ok

/-! ## Links -/

/-- The path of a file without links in it, as far as there are files on it. -/
def plainPath (path : String) : Chore String := do
  match ← askText (.realPath path) with
  | .ok p => pure p
  | .error _ => resolveMissing 200 path []

def makeLinks (args environment : List String) : Chore Nat :=
  withOptions { letters := "bdfinrsS:t:vFLPT", long := [("symbolic", .none), ("force", .none),
    ("no-dereference", .none), ("relative", .none), ("target-directory", .required),
    ("no-target-directory", .none), ("backup", .optional), ("interactive", .none),
    ("logical", .none), ("physical", .none), ("suffix", .required), ("verbose", .none),
    ("directory", .none)] } 1 args fun chosen names => do
    let fail (why : String) : Chore Nat := do
      warn ("ln: " ++ why)
      pure 1
    let some (backups, ending) := backupsOf chosen environment | fail "invalid backup type"
    let symbolic := has chosen ["s", "symbolic"]
    let relative := has chosen ["r", "relative"]
    let asks := ((chosen.filter fun c => ["f", "force", "i", "interactive"].contains
      c.name).map (·.name)).getLast?
    let force := asks == some "f" || asks == some "force"
    let interactive := asks == some "i" || asks == some "interactive"
    let verbose := has chosen ["v", "verbose"]
    let asFile := has chosen ["T", "no-target-directory"]
    let follows := ((chosen.filter fun c => ["L", "logical", "P", "physical"].contains
      c.name).map (·.name)).getLast?
    let one (made : List String) (source target : String) : Chore Bool := do
      let complain (why : String) : Chore Bool := do
        let _ ← fail why
        pure false
      let behind ← inspect source (follows == some "L" || follows == some "logical")
      match symbolic, behind with
      | false, .error why => complain ("failed to access " ++ quoted source ++ ": " ++ why.text)
      | _, _ => do
        let kind : Option FileKind := behind.toOption.map (·.kind)
        if !symbolic && kind == some .directory then
          complain (source ++ ": hard link not allowed for directory")
        else do
          let there? ← if force || interactive || backups.isSome then inspect? target false
            else pure none
          let mut backup : Option String := none
          let mut removes := false
          if let some there := there? then
            if there.kind = .directory then
              return ← complain (target ++ ": cannot overwrite directory")
            if made.contains target then
              return ← complain ("will not overwrite just-created " ++ quoted target ++ " with " ++
                quoted source)
            let isSame := behind.toOption.any (·.node == there.node)
            if (backups.isNone || !symbolic) && isSame &&
                (there.names = 1 || (← isSameName source target)) then
              return ← complain (quoted source ++ " and " ++ quoted target ++ " are the same file")
            if !(← agreed interactive ("ln: replace " ++ quoted target ++ "? ")) then
              return true
            match backups with
            | some how => do
              let name ← backupName how ending target
              match ← askDone (.rename target name) with
              | .ok () => backup := some name
              | .error why => return ← complain ("cannot backup " ++ quoted target ++ ": " ++ why.text)
            | none => removes := force || interactive
          let goal ← if relative then do
              let goal ← plainPath source
              let place ← plainPath (directoryName target)
              pure (relativePath place goal)
            else pure source
          let source' ← if follows == some "L" || follows == some "logical" then
              match ← askText (.realPath source) with
              | .ok p => pure p
              | .error _ => pure source
            else pure source
          let attempt := if symbolic then askDone (.makeLink goal target)
            else askDone (.hardLink source' target)
          let result ← match removes, ← attempt with
            | true, .error .alreadyThere => do
              let _ ← askDone (.unlink target)
              attempt
            | _, r => pure r
          match result with
          | .ok () => do
            if verbose then
              let front := match backup with
                | some b => quoted b ++ " ~ "
                | none => ""
              say (front ++ quoted target ++ (if symbolic then " -> " else " => ") ++ quoted goal ++
                "\n")
            pure true
          | .error why => do
            if let some b := backup then
              let _ ← askDone (.rename b target)
            complain ("failed to create " ++ (if symbolic then "symbolic link " else "hard link ") ++
              quoted target ++ ": " ++ why.text)
    let all (pairs : List (String × String)) : Chore Nat := do
      let mut ok := true
      let mut made : List String := []
      for (source, target) in pairs do
        let here ← one made source target
        ok := ok && here
        if here then made := target :: made
      finish (if ok then 0 else 1)
    if relative && !symbolic then fail "cannot do --relative without --symbolic"
    else
      match names, valueOf? chosen ["t", "target-directory"] with
      | [], _ => missingOperand "ln"
      | [source], none =>
        if asFile then fail "missing destination file operand" else all [(source, "./" ++ baseName source)]
      | names, some d => do
        let known ← inspect? d true
        if asFile then fail "cannot combine --target-directory and --no-target-directory"
        else if known.any (·.kind = .directory) then
          all (names.map fun s => (s, joinPath d (baseName s)))
        else fail ("target directory " ++ quoted d ++ ": Not a directory")
      | names, none => do
        match ← destinations "ln" none asFile (!has chosen ["n", "no-dereference"]) names with
        | none => pure 1
        | some pairs => all pairs

/-- Give a file another name. -/
def linkFile (args : List String) : Chore Nat :=
  withOptions { letters := "" } 1 args fun _ names => do
    match names with
    | [a, b] =>
      match ← askDone (.hardLink a b) with
      | .ok () => finish 0
      | .error why => do
        warn ("link: cannot create link " ++ quoted b ++ " to " ++ quoted a ++ ": " ++ why.text)
        pure 1
    | _ => do
      warn (if names.length < 2 then "link: missing operand" else "link: extra operand")
      pure 1

/-- Take a name away from a file. -/
def unlinkFile (args : List String) : Chore Nat :=
  withOptions { letters := "" } 1 args fun _ names => do
    match names with
    | [a] =>
      match ← askDone (.unlink a) with
      | .ok () => finish 0
      | .error why => do
        warn ("unlink: cannot unlink " ++ quoted a ++ ": " ++ why.text)
        pure 1
    | _ => do
      warn (if names.isEmpty then "unlink: missing operand" else "unlink: extra operand")
      pure 1

/-! ## Special files -/

/-- The mode of a special file that is made, if it is one of those that are fit for it. -/
def specialMode (title : String) (chosen : List Choice) : Chore (Option Nat) := do
  match valueOf? chosen ["m", "mode"] with
  | none => pure (some 438)
  | some text =>
    match modeOf? text 438 0 false with
    | none => do
      warn (title ++ ": invalid mode")
      pure none
    | some m =>
      if 511 < m then do
        warn (title ++ ": mode must specify only file permission bits")
        pure none
      else pure (some m)

/-- Make a pipe with a name, with just the mode that was asked for. -/
def makeQueueAt (title : String) (chosen : List Choice) (mode : Nat) (name : String) :
    Chore Bool := do
  match ← askDone (.makeQueue name mode) with
  | .ok () => do
    if has chosen ["m", "mode"] then
      let _ ← askDone (.changeMode name mode)
    pure true
  | .error why => do
    warn (title ++ ": cannot create fifo " ++ quoted name ++ ": " ++ why.text)
    pure false

def makeQueues (args : List String) : Chore Nat :=
  withOptions { letters := "m:Z", long := [("mode", .required), ("context", .optional)] } 1 args
    fun chosen names => do
    if names.isEmpty then missingOperand "mkfifo"
    else
      match ← specialMode "mkfifo" chosen with
      | none => pure 1
      | some mode => do
        let mut ok := true
        for name in names do
          let here ← makeQueueAt "mkfifo" chosen mode name
          ok := ok && here
        finish (if ok then 0 else 1)

/-- Make a special file, which for most kinds is not permitted. -/
def makeSpecial (args : List String) : Chore Nat :=
  withOptions { letters := "m:Z", long := [("mode", .required), ("context", .optional)] } 1 args
    fun chosen names => do
    let fail (why : String) : Chore Nat := do
      warn ("mknod: " ++ why)
      pure 1
    match ← specialMode "mknod" chosen with
    | none => pure 1
    | some mode =>
      match names with
      | [name, kind] =>
        if kind.startsWith "p" then do
          let ok ← makeQueueAt "mknod" chosen mode name
          finish (if ok then 0 else 1)
        else fail ("missing operand after " ++ quoted kind)
      | [name, kind, _, _] =>
        if kind.startsWith "p" then fail "Fifos do not have major and minor device numbers."
        else if ["b", "c", "u"].any (kind.startsWith ·) then
          fail (name ++ ": Operation not permitted")
        else fail ("invalid device type " ++ quoted kind)
      | [] | [_] | [_, _, _] => fail "missing operand"
      | _ => fail "extra operand"

/-! ## Installing -/

/-- Make a directory with all those above it that are missing, and tell about each. -/
def makeLeading (title : String) (verbose : Bool) : Nat → String → Chore Bool
  | 0, _ => pure false
  | n + 1, path => do
    match ← inspect? path true with
    | some i =>
      if i.kind = .directory then pure true
      else do
        warn (title ++ ": cannot create directory " ++ quoted path ++ ": File exists")
        pure false
    | none => do
      let above := directoryName path
      let ok ← if above == path then pure true else makeLeading title verbose n above
      if !ok then pure false
      else
        match ← askDone (.makeDirectory path 493) with
        | .ok () => do
          let _ ← askDone (.changeMode path 493)
          if verbose then say (title ++ ": creating directory " ++ quoted path ++ "\n")
          pure true
        | .error why => do
          warn (title ++ ": cannot create directory " ++ quoted path ++ ": " ++ why.text)
          pure false

/-- Whether a name or a number is that of the user, or of the user's group. -/
def isOneself (name : String) : Bool := name == "user" || name == "1000" || name.isEmpty

def installFiles (args environment : List String) : Chore Nat :=
  withOptions { letters := "bcCsDdg:m:o:pt:TvS:Z", long := [("backup", .optional),
    ("compare", .none), ("context", .optional), ("debug", .none), ("directory", .none),
    ("group", .required), ("mode", .required), ("no-target-directory", .none),
    ("owner", .required), ("preserve-timestamps", .none), ("preserve-context", .none),
    ("strip", .none), ("strip-program", .required), ("suffix", .required),
    ("target-directory", .required), ("verbose", .none)] } 1 args fun chosen names => do
    let fail (why : String) : Chore Nat := do
      warn ("install: " ++ why)
      pure 1
    let some (backups, ending) := backupsOf chosen environment | fail "invalid backup type"
    let verbose := has chosen ["v", "verbose"]
    let makesDirectories := has chosen ["d", "directory"]
    let mode := match valueOf? chosen ["m", "mode"] with
      | some text => modeOf? text 0 0 makesDirectories
      | none => some 493
    let strips := has chosen ["s", "strip"]
    let owners := ["o", "owner", "g", "group"].filterMap fun n => valueOf? chosen [n]
    let intoDirectory := valueOf? chosen ["t", "target-directory"]
    let asFile := has chosen ["T", "no-target-directory"]
    match mode with
    | none => fail "invalid mode"
    | some mode => do
      if strips && makesDirectories then return ← fail "the strip option may not be used with -d"
      if intoDirectory.isSome && makesDirectories then
        return ← fail "target directory not allowed when installing a directory"
      if names.isEmpty then return ← fail "missing file operand"
      let mayOwn := owners.all isOneself
      if makesDirectories then do
        let mut ok := true
        for name in names do
          let here ← makeLeading "install" verbose 200 (withoutSlashes name)
          if here then
            let _ ← askDone (.changeMode name mode)
          ok := ok && here && mayOwn
        finish (if ok then 0 else 1)
      else do
        if has chosen ["D"] then
          let d := match intoDirectory with
            | some d => d
            | none => directoryName (names.getLastD "")
          if 1 < names.length || intoDirectory.isSome then
            if !(← makeLeading "install" verbose 200 d) then return 1
        match ← destinations "install" intoDirectory asFile true names with
        | none => pure 1
        | some pairs => do
          let t : Transfer := {
            title := "install", removesFirst := true, backups := backups, ending := ending
            verbose := verbose, keepsTime := has chosen ["p", "preserve-timestamps"] }
          let mut ok := true
          let mut earlier : List String := []
          for (source, target) in pairs do
            let isSame ← if has chosen ["C", "compare"] then alike mode source target
              else pure false
            if !isSame then
              let here ← t.bring 200 true [] earlier source target
              if here then
                let _ ← askDone (.changeMode target mode)
                if !mayOwn then
                  ok := false
                if strips then
                  warn "install: cannot run strip: No such file or directory"
                  let _ ← askDone (.unlink target)
                  ok := false
              ok := ok && here
              earlier := target :: earlier
          finish (if ok then 0 else 1)
where
  /-- Whether a target has a source's text already, and the mode that it shall get. -/
  alike (mode : Nat) (source target : String) : Chore Bool := do
    match ← inspect? source false, ← inspect? target false with
    | some a, some b =>
      if a.kind = .plain && b.kind = .plain && a.size == b.size && b.mode == mode && b.mine then do
        let (s, okA) ← allText [source]
        let (u, okB) ← allText [target]
        pure (okA && okB && s == u)
      else pure false
    | _, _ => pure false

end StreamSupervisor.Tool
