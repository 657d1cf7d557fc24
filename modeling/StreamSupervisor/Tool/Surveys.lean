import StreamSupervisor.Text.Regex
import StreamSupervisor.Tool.Paths

/-! # Surveys

Programs that tell about the machine as a whole: its file systems, its processes, its users
and its settings. What they tell is of little concern, but they have to be asked properly.
-/

namespace StreamSupervisor.Tool

open Machine

/-- A program that tells something: its options, the code for wrong ones, how many operands
it takes, and whether these have to be files that are there. -/
structure Survey where
  options : Options
  wrong : Nat := 1
  most : Nat := 1000
  /-- The code for too many operands. -/
  excess : Nat := 1
  demandsFiles : Bool := false
  help : List String := ["h", "V"]

def Survey.answer (s : Survey) (args : List String) : Chore Nat :=
  withOptions s.options s.wrong args fun chosen operands => do
    if has chosen s.help then do
      say "usage\n"
      finish 0
    else if s.most < operands.length then do
      warn "extra operand"
      pure s.excess
    else do
      let mut code := 0
      if s.demandsFiles then
        for name in operands do
          match ← inspect name true with
          | .ok _ => pure ()
          | .error why => do
            warn (name ++ ": " ++ why.text)
            code := 1
      say "1\n"
      finish code

/-! ## File systems -/

/-- The columns that can be asked for. -/
def spaceColumns : List String :=
  ["source", "fstype", "itotal", "iused", "iavail", "ipcent", "size", "used", "avail", "pcent",
    "file", "target"]

def showSpace (args : List String) : Chore Nat :=
  let s : Survey := {
    options := { letters := "aB:iThHklmPt:x:v", long := [("all", .none),
      ("block-size", .required), ("inodes", .none), ("human-readable", .none), ("si", .none),
      ("local", .none), ("portability", .none), ("print-type", .none), ("sync", .none),
      ("no-sync", .none), ("total", .none), ("type", .required), ("exclude-type", .required),
      ("output", .optional)], checks := [⟨["B", "block-size"], 1, isBlockSize⟩,
        ⟨["output"], 1, fun v => (v.splitOn ",").all spaceColumns.contains⟩,
        ⟨["t", "type"], 1, fun v => ["overlay", "ext4", "tmpfs", "proc", "sysfs"].contains v⟩] }
    demandsFiles := true, help := [] }
  s.answer args

/-- Look through a directory; say whether all of it could be seen. -/
def measureTree : Nat → String → Chore Bool
  | 0, _ => pure true
  | n + 1, path => do
    match ← inspect path false with
    | .error why => do
      warn ("du: cannot access '" ++ path ++ "': " ++ why.text)
      pure false
    | .ok i =>
      if i.kind != .directory then pure true
      else
        match ← askNames (.list path) with
        | .error why => do
          warn ("du: cannot read directory '" ++ path ++ "': " ++ why.text)
          pure false
        | .ok names => do
          let mut whole := true
          for name in names do
            let here ← measureTree n (joinPath path name)
            whole := whole && here
          pure whole

def measureFiles (args : List String) : Chore Nat :=
  withOptions { letters := "0abB:cd:DhHklLmPsSt:xX:", long := [("null", .none), ("all", .none),
    ("apparent-size", .none), ("block-size", .required), ("bytes", .none), ("total", .none),
    ("dereference-args", .none), ("max-depth", .required), ("files0-from", .required),
    ("human-readable", .none), ("inodes", .none), ("dereference", .none), ("si", .none),
    ("count-links", .none), ("no-dereference", .none), ("separate-dirs", .none),
    ("summarize", .none), ("threshold", .required), ("time", .optional),
    ("time-style", .required), ("exclude-from", .required), ("exclude", .required),
    ("one-file-system", .none)], checks := [⟨["B", "block-size"], 1, isBlockSize⟩,
      ⟨["d", "max-depth"], 1, isDigits⟩,
      ⟨["t", "threshold"], 1, fun v =>
        isBlockSize (if v.startsWith "-" then dropChars 1 v else v)⟩,
      .words ["time"] ["atime", "access", "use", "ctime", "status"]] } 1 args
    fun chosen operands => do
    let summary := has chosen ["s", "summarize"]
    let depth := (valueOf? chosen ["d", "max-depth"]).bind (·.toNat?)
    if summary && (has chosen ["a", "all"] || depth.any (0 < ·)) then do
      warn "du: conflicting options"
      pure 1
    else do
      let mut code := 0
      for name in (if operands.isEmpty then ["."] else operands) do
        if !(← measureTree 100 name) then code := 1
        say ("4\t" ++ name ++ "\n")
      finish code

/-- The places where file systems begin. -/
def mountPlaces : List String :=
  ["/", "/proc", "/sys", "/dev", "/dev/pts", "/dev/shm", "/dev/mqueue"]

def judgeMount (args : List String) : Chore Nat :=
  withOptions { letters := "qdxhV", long := [("quiet", .none), ("fs-devno", .none),
    ("devno", .none), ("nofollow", .none)] } 1 args fun chosen operands => do
    match operands with
    | _ =>
      if has chosen ["h", "V"] then do
        say "usage\n"
        finish 0
      else
        match operands with
        | [path] =>
          match ← askText (.realPath path) with
          | .error why => do
            if !has chosen ["q", "quiet"] then warn ("mountpoint: " ++ path ++ ": " ++ why.text)
            pure 1
          | .ok real =>
            if has chosen ["x", "devno"] then pure 32
            else if mountPlaces.contains real then do
              say "is a mountpoint\n"
              finish 0
            else pure 32
        | _ => do
          warn "mountpoint: bad usage"
          pure 1

/-! ## Processes -/

def processList : Chore (List ProcessInfo) := do
  match ← Asking.ask .processes with
  | .processes l => pure l
  | _ => pure []

/-- What processes are chosen by. -/
structure Wanted where
  pattern : Option String
  /-- Whether all the words count, and whether the match has to be of the whole. -/
  full : Bool
  exact : Bool
  ignoreCase : Bool
  inverse : Bool
  parents : Option (List Nat)

def Wanted.holds (w : Wanted) (p : ProcessInfo) : Bool :=
  let text := if w.full then " ".intercalate p.words else p.name
  let fits :=
    match w.pattern with
    | none => true
    | some pattern =>
      let pattern := if w.exact then "^(" ++ pattern ++ ")$" else pattern
      match Regex.read true pattern true with
      | .ok (r, _) => (Regex.search? w.ignoreCase r text.toList (Regex.start text)).isSome
      | .error _ => false
  let related := w.parents.all (·.contains p.parent)
  (fits && related) != w.inverse

/-- The options by which processes are found, and those that only finding or only signalling
them has. -/
def findingOptions (own : String) : Options :=
  { letters := "c" ++ own ++ "fg:G:inoO:P:r:s:t:u:U:vxF:LhV", long := [("count", .none),
      ("delimiter", .required), ("list-name", .none), ("list-full", .none),
      ("inverse", .none), ("lightweight", .none), ("full", .none), ("pgroup", .required),
      ("group", .required), ("ignore-case", .none), ("newest", .none), ("oldest", .none),
      ("older", .required), ("parent", .required), ("session", .required),
      ("signal", .required), ("terminal", .required), ("euid", .required),
      ("uid", .required), ("exact", .none), ("pidfile", .required), ("logpidfile", .none),
      ("runstates", .required), ("echo", .none)], checks := [
        ⟨["u", "U", "euid", "uid"], 2, fun v => ["root", "user", "0", "1000"].contains v⟩,
        ⟨["P", "g", "s", "parent", "pgroup", "session"], 2,
          fun v => (v.splitOn ",").all isDigits⟩] }

/-- Find processes by their names; nothing if the options or the pattern are wrong. -/
def findProcesses (chosen : List Choice) (operands : List String) :
    Chore (Option (List ProcessInfo)) := do
  let others := ["u", "U", "euid", "uid", "P", "parent", "g", "pgroup", "s", "session", "t",
    "terminal", "G", "group"]
  if 1 < operands.length || operands.isEmpty && !has chosen others then pure none
  else
    let pattern := operands.head?
    let sound := pattern.all fun p => (Regex.read true p true).toOption.isSome
    if !sound then pure none
    else do
      let own ← match ← Asking.ask .identity with
        | .pair pid _ => pure pid
        | _ => pure 0
      let parents := (valueOf? chosen ["P", "parent"]).map fun v =>
        (v.splitOn ",").filterMap (·.toNat?)
      let w : Wanted := {
        pattern := pattern, full := has chosen ["f", "full"], exact := has chosen ["x", "exact"]
        ignoreCase := has chosen ["i", "ignore-case"], inverse := has chosen ["v", "inverse"]
        parents := parents }
      let foreign := (valueOf? chosen ["u", "U", "euid", "uid"]).any fun v =>
        v == "root" || v == "0"
      let all ← processList
      let found := all.filter fun p => p.pid != own && !foreign && w.holds p
      pure (some (if has chosen ["n", "newest"] then found.getLast?.toList
        else if has chosen ["o", "oldest"] then found.head?.toList else found))

def listFound (args : List String) : Chore Nat :=
  withOptions (findingOptions "d:la") 2 args fun chosen operands => do
    if has chosen ["h", "V"] then do
      say "usage\n"
      finish 0
    else
      match ← findProcesses chosen operands with
      | none => do
        warn "pgrep: only one pattern can be provided"
        pure 2
      | some found => do
        say (if has chosen ["c", "count"] then toString found.length ++ "\n"
          else String.join (found.map fun p => toString p.pid ++ "\n"))
        finish (if found.isEmpty then 1 else 0)

def signalFound (args : List String) : Chore Nat := do
  /- A signal may stand among the options by its number or its name. -/
  let signals := args.filterMap fun a =>
    if a.startsWith "-" && 2 < a.length || isDigits (dropChars 1 a) then
      (signalLong? (dropChars 1 a)).map fun n => (a, n)
    else none
  let args' := args.filter fun a => !signals.any (·.1 == a)
  withOptions (findingOptions "eHq:") 2 args' fun chosen operands => do
    if has chosen ["h", "V"] then do
      say "usage\n"
      finish 0
    else
      match ← findProcesses chosen operands with
      | none => do
        warn "pkill: only one pattern can be provided"
        pure 2
      | some found => do
        let named := (valueOf? chosen ["signal"]).bind signalLong?
        let signal := ((signals.head?.map (·.2)).orElse fun _ => named).getD 15
        let mut code := 1
        for p in found do
          match ← askDone (.send p.pid signal) with
          | .ok () => code := 0
          | .error _ => pure ()
        pure code

/-- The processes that run some programs. -/
def identifyRunning (args : List String) : Chore Nat :=
  withOptions { letters := "cno:S:sqtxwhV", long := [("single-shot", .none),
    ("check-root", .none), ("with-workers", .none), ("omit-pid", .required),
    ("separator", .required)] } 1 args fun chosen names => do
    if has chosen ["h", "V"] then do
      say "usage\n"
      finish 0
    else do
      let all ← processList
      let found := all.filter fun p =>
        let first := p.words.headD ""
        names.any fun n => n == first || n == baseName first ||
          has chosen ["x"] && p.words.any fun w => baseName w == n
      if found.isEmpty then pure 1
      else do
        say (" ".intercalate (found.map fun p => toString p.pid) ++ "\n")
        finish 0

/-- The columns by which processes are shown. -/
def processColumns : List String :=
  ["pid", "ppid", "pgid", "sid", "tpgid", "comm", "cmd", "args", "command", "user", "uid",
    "ruser", "ruid", "group", "gid", "stat", "state", "s", "time", "etime", "etimes", "cputime",
    "tty", "tt", "tname", "pcpu", "%cpu", "pmem", "%mem", "rss", "rssize", "vsz", "vsize", "nice",
    "ni", "pri", "start", "stime", "lstart", "start_time", "bsdstart", "wchan", "nlwp", "thcount",
    "psr", "cls", "class", "euid", "euser", "fname", "ucmd", "size", "sz", "flags", "f", "lwp",
    "tid", "spid", "pgrp", "session", "sess", "ucomm", "egid", "egroup", "environ", "label"]

/-- What is asked of the list of processes. -/
structure Roll where
  wrong : Bool := false
  help : Bool := false
  pids : Option (List String) := none
  names : Option (List String) := none
  /-- Whether one asked for a user that there is not. -/
  foreign : Bool := false

def readRoll : Nat → List String → Roll → Roll
  | 0, _, r => r
  | _ + 1, [], r => r
  | n + 1, a :: rest, r =>
    let split (v : String) : List String := (v.splitOn ",").filter (!·.isEmpty)
    let take (c : Char) (v : String) (rest : List String) : Roll :=
      let addPids := { r with pids := some (r.pids.getD [] ++ split v) }
      if c == 'p' || c == 'q' then
        if (split v).all isDigits && !(split v).isEmpty then readRoll n rest addPids
        else { r with wrong := true }
      else if c == 'C' then
        readRoll n rest { r with names := some (r.names.getD [] ++ split v) }
      else if c == 'o' || c == 'O' then
        let known (f : String) : Bool :=
          processColumns.contains ((((f.splitOn "=").headD "").splitOn ":").headD "")
        if (split v).flatMap (·.splitOn " ") |>.all known then readRoll n rest r
        else { r with wrong := true }
      else if c == 'u' || c == 'U' then
        if (split v).all fun u => isDigits u || ["root", "user", "daemon"].contains u then
          readRoll n rest r
        else { r with wrong := true }
      else readRoll n rest r
    let letters (cs : List Char) (valued : String) (plain : String) : Roll :=
      let front := cs.takeWhile fun c => !valued.toList.contains c
      if front.any fun c => !plain.toList.contains c then { r with wrong := true }
      else
        match cs.drop front.length with
        | [] => readRoll n rest r
        | [c] =>
          match rest with
          | v :: rest => take c v rest
          | [] => { r with wrong := true }
        | c :: v => take c (String.ofList v) rest
    if a == "--help" || a == "--version" || a == "-V" then { r with help := true }
    else if a.startsWith "--" then
      let name := ((dropChars 2 a).splitOn "=").headD ""
      let flags := ["no-headers", "forest", "headers", "cumulative", "deselect", "info"]
      let valued := [("pid", 'p'), ("user", 'u'), ("format", 'o'), ("sort", 's'),
        ("ppid", 'g'), ("tty", 't'), ("cols", 'w'), ("rows", 'w'), ("User", 'U')]
      if flags.contains name then readRoll n rest r
      else
        match valued.lookup name, splitAtChar? '=' a, rest with
        | some c, some (_, v), _ => take c v rest
        | some c, none, v :: rest => take c v rest
        | _, _, _ => { r with wrong := true }
    else if a.startsWith "-" then
      letters (a.toList.drop 1) "pqoOuUCtgGsk" "AaNdeTfFjlLyMZVwcHnmPx"
    else if a.all fun c => isDigit c || c == ',' then
      readRoll n rest { r with pids := some (r.pids.getD [] ++ split a) }
    else letters a.toList "poOtUk" "auxefjlmnrsvwxXSTZchLHgN"

def listProcesses (args : List String) : Chore Nat := do
  let r := readRoll (args.length + 1) args {}
  if r.help then do
    say "usage\n"
    finish 0
  else if r.wrong then do
    warn "error: unsupported option"
    pure 1
  else do
    let all ← processList
    let found (pid : String) : Bool :=
      pid == "1" || all.any fun p => toString p.pid == pid
    say "PID\n"
    match r.pids, r.names with
    | none, none => finish 0
    | pids, names =>
      let known := (pids.getD []).any found ||
        (names.getD []).any fun n => all.any fun p => p.name == n
      finish (if known then 0 else 1)

/-! ## The state of the machine -/

def showMemory (args : List String) : Chore Nat :=
  let s : Survey := {
    options := { letters := "bkmghlLtvs:c:wV", long := [("bytes", .none), ("kilo", .none),
      ("mega", .none), ("giga", .none), ("tera", .none), ("kibi", .none), ("mebi", .none),
      ("gibi", .none), ("human", .none), ("si", .none), ("lohi", .none), ("line", .none),
      ("total", .none), ("committed", .none), ("seconds", .required), ("count", .required),
      ("wide", .none)], checks := [
        ⟨["s", "seconds", "c", "count"], 1, fun v => (Duration.ofText? v).isSome⟩] }
    most := 0, help := ["V"] }
  withOptions s.options 1 args fun chosen operands => do
    if has chosen ["s", "seconds"] && !has chosen ["c", "count"] && operands.isEmpty then do
      let _ ← Asking.ask (.sleep none)
      pure 0
    else s.answer args

def showUptime (args : List String) : Chore Nat :=
  ({ options := { letters := "pshV", long := [("pretty", .none), ("since", .none)] }
     most := 0 } : Survey).answer args

/-- Show how busy the machine is, again and again if no count is given. -/
def showActivity (args : List String) : Chore Nat :=
  withOptions { letters := "afmnsdDp:S:twyhV", long := [("active", .none), ("forks", .none),
    ("slabs", .none), ("one-header", .none), ("stats", .none), ("disk", .none),
    ("disk-sum", .none), ("partition", .required), ("unit", .required), ("wide", .none),
    ("timestamp", .none), ("no-first", .none)] } 1 args fun chosen operands => do
    if has chosen ["h", "V"] then do
      say "usage\n"
      finish 0
    else if operands.any fun o => !isDigits o || o == "0" then do
      warn "vmstat: failed to parse argument"
      pure 1
    else
      match operands with
      | [_] => do
        let _ ← Asking.ask (.sleep none)
        pure 0
      | delay :: count :: _ => do
        let rounds := (count.toNat?.getD 1) - 1
        let _ ← Asking.ask (.sleep (some (rounds * (delay.toNat?.getD 1) * 1000000)))
        say "0\n"
        finish 0
      | [] => do
        say "0\n"
        finish 0

def watchProcesses (args : List String) : Chore Nat :=
  withOptions { letters := "bcd:E:e:hHin:o:Op:sSu:U:vVw::1" } 1 args fun chosen operands => do
    if has chosen ["h", "v", "V", "O"] then do
      say "usage\n"
      finish 0
    else if !operands.isEmpty || !has chosen ["b"] then do
      warn "top: failed tty get"
      pure 1
    else
      match valueOf? chosen ["n"] with
      | none => do
        let _ ← Asking.ask (.sleep none)
        pure 0
      | some v =>
        match v.toNat? with
        | some (k + 1) => do
          let _ ← Asking.ask (.sleep (some (k * 3000000 + 1)))
          say "PID\n"
          finish 0
        | _ => pure 1

/-! ## Users -/

def showVisitors (args : List String) : Chore Nat :=
  ({ options := { letters := "abdlmpqrstTuHw", long := [("all", .none), ("boot", .none),
      ("count", .none), ("dead", .none), ("heading", .none), ("login", .none),
      ("lookup", .none), ("message", .none), ("mesg", .none), ("process", .none),
      ("runlevel", .none), ("short", .none), ("time", .none), ("users", .none),
      ("writable", .none)] }
     most := 2, help := [] } : Survey).answer args

def showUsers (args : List String) : Chore Nat :=
  ({ options := { letters := "" }, most := 1, help := [] } : Survey).answer args

def showLogins (args : List String) : Chore Nat :=
  ({ options := { letters := "adF:Fin:Rs:t:p:wx0123456789hV", long := [("hostlast", .none),
      ("dns", .none), ("file", .required), ("fulltimes", .none), ("ip", .none),
      ("limit", .required), ("nohostname", .none), ("since", .required), ("until", .required),
      ("present", .required), ("fullnames", .none), ("system", .none),
      ("time-format", .required)] } } : Survey).answer args

/-! ## Settings -/

/-- Settings of the system, with their values. -/
def settings : List (String × String) :=
  [("PATH", "/bin:/usr/bin"), ("CS_PATH", "/bin:/usr/bin"), ("ARG_MAX", "2097152"),
    ("CHILD_MAX", "127235"), ("CLK_TCK", "100"), ("OPEN_MAX", "1048576"), ("PAGESIZE", "4096"),
    ("PAGE_SIZE", "4096"), ("_NPROCESSORS_CONF", "4"), ("_NPROCESSORS_ONLN", "4"),
    ("_PHYS_PAGES", "2000000"), ("_AVPHYS_PAGES", "1000000"), ("LONG_BIT", "64"),
    ("WORD_BIT", "32"), ("CHAR_BIT", "8"), ("CHAR_MAX", "127"), ("CHAR_MIN", "-128"),
    ("INT_MAX", "2147483647"), ("INT_MIN", "-2147483648"), ("UINT_MAX", "4294967295"),
    ("LONG_MAX", "9223372036854775807"), ("ULONG_MAX", "18446744073709551615"),
    ("SHRT_MAX", "32767"), ("USHRT_MAX", "65535"), ("SSIZE_MAX", "32767"),
    ("LOGIN_NAME_MAX", "256"), ("HOST_NAME_MAX", "64"), ("TTY_NAME_MAX", "32"),
    ("LINE_MAX", "2048"), ("IOV_MAX", "1024"), ("UIO_MAXIOV", "1024"), ("NGROUPS_MAX", "65536"),
    ("STREAM_MAX", "16"), ("TZNAME_MAX", ""), ("RE_DUP_MAX", "32767"), ("BC_BASE_MAX", "99"),
    ("BC_DIM_MAX", "2048"), ("BC_SCALE_MAX", "99"), ("BC_STRING_MAX", "1000"),
    ("EXPR_NEST_MAX", "32"), ("COLL_WEIGHTS_MAX", "255"), ("_POSIX_VERSION", "200809"),
    ("_XOPEN_VERSION", "700"), ("POSIX2_VERSION", "200809"), ("_POSIX_JOB_CONTROL", "1"),
    ("_POSIX_SAVED_IDS", "1"), ("GNU_LIBC_VERSION", "glibc 2.36"), ("NPROCESSORS_ONLN", "4"),
    ("NPROCESSORS_CONF", "4"), ("GNU_LIBPTHREAD_VERSION", "NPTL 2.36"),
    ("LEVEL1_DCACHE_SIZE", "32768"), ("LEVEL1_DCACHE_LINESIZE", "64"),
    ("LEVEL2_CACHE_SIZE", "1048576"), ("SYMLOOP_MAX", ""), ("ATEXIT_MAX", "2147483647"),
    ("PTHREAD_KEYS_MAX", "1024"), ("PTHREAD_STACK_MIN", "16384"), ("NL_ARGMAX", "4096"),
    ("_POSIX_THREADS", "200809"), ("_POSIX_TIMERS", "200809"), ("NZERO", "20")]

/-- Settings that depend on a file. -/
def pathSettings : List (String × String) :=
  [("LINK_MAX", "127"), ("MAX_CANON", "255"), ("MAX_INPUT", "255"), ("NAME_MAX", "255"),
    ("PATH_MAX", "4096"), ("PIPE_BUF", "4096"), ("FILESIZEBITS", "64"), ("SYMLINK_MAX", ""),
    ("_POSIX_CHOWN_RESTRICTED", "1"), ("_POSIX_NO_TRUNC", "1"), ("_POSIX_VDISABLE", "0"),
    ("SOCK_MAXBUF", ""), ("REC_XFER_ALIGN", "4096"), ("ALLOC_SIZE_MIN", "4096")]

def showSetting (args : List String) : Chore Nat := do
  let args := match args with
    | "-v" :: _ :: rest => rest
    | args => args
  match args with
  | ["--help"] | ["--version"] | ["-a"] | ["-a", _] => do
    say "usage\n"
    finish 0
  | [name] =>
    match settings.lookup name with
    | some v => do
      say (v ++ "\n")
      finish 0
    | none => pure 2
  | [name, _] =>
    match pathSettings.lookup name with
    | some v => do
      say (v ++ "\n")
      finish 0
    | none => pure 2
  | _ => do
    warn "Usage: getconf [-v specification] variable_name [pathname]"
    pure 2

/-- The words that tell about languages. -/
def localeWords : List String :=
  ["charmap", "LC_CTYPE", "LC_NUMERIC", "LC_TIME", "LC_COLLATE", "LC_MONETARY", "LC_MESSAGES",
    "LC_PAPER", "LC_NAME", "LC_ADDRESS", "LC_TELEPHONE", "LC_MEASUREMENT", "LC_IDENTIFICATION",
    "decimal_point", "thousands_sep", "int_curr_symbol", "currency_symbol", "day", "abday",
    "mon", "abmon", "d_t_fmt", "d_fmt", "t_fmt", "am_pm", "yesexpr", "noexpr", "yesstr", "nostr"]

def showLocale (args : List String) : Chore Nat :=
  withOptions { letters := "amckv?V", long := [("all-locales", .none), ("charmaps", .none),
    ("category-name", .none), ("keyword-name", .none), ("verbose", .none), ("usage", .none)] }
    64 args fun chosen operands => do
    if has chosen ["m", "charmaps"] then pure 1
    else if operands.all localeWords.contains then do
      say "C\n"
      finish 0
    else do
      warn "locale: unknown name"
      pure 1

/-- The libraries that a program of machine instructions needs. -/
def showLibraries (args : List String) : Chore Nat := do
  let operands := args.filter fun a => ! ["-v", "-d", "-r", "-u", "--verbose"].contains a
  if args.contains "--version" || args.contains "--help" then do
    say "usage\n"
    finish 0
  else if operands.isEmpty || operands.any fun o => o.startsWith "-" then do
    warn "ldd: missing file arguments"
    pure 1
  else do
    let mut code := 0
    for name in operands do
      let isProgram ← match ← openFile name .reading with
        | .ok d => do
          let text ← readAll d
          close d
          pure (text.startsWith "\x7fELF")
        | .error _ => pure false
      if isProgram then say "\tlibc.so.6\n" else code := 1
    finish code

/-- Files that may hold several parts of a path. -/
def showPathParts (args : List String) : Chore Nat :=
  ({ options := { letters := "xmolvnZhV", long := [("mountpoints", .none), ("modes", .none),
      ("owners", .none), ("long", .none), ("nosymlinks", .none), ("vertical", .none),
      ("context", .none)] }
     demandsFiles := true } : Survey).answer args

def showMounts (args : List String) : Chore Nat :=
  withOptions { letters := "AabCcDdeF:fH:ihJkl M:mnO:o:Pp::RrS:sT:t:UuvVwx" } 1 args
    fun chosen operands => do
    if has chosen ["h", "V"] then do
      say "usage\n"
      finish 0
    else
      let places := operands ++ (valueOf? chosen ["M", "T"]).toList
      if places.all mountPlaces.contains then do
        say "TARGET\n"
        finish 0
      else pure 1

end StreamSupervisor.Tool
