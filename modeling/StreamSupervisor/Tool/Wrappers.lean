import StreamSupervisor.Tool.Starters

/-! # Wrappers

Programs that run another one with a different rank, on other processors, in a namespace of
its own or while a lock is held. None of this shows here but in what is refused: it takes an
administrator to rank higher or to leave one's own rights.
-/

namespace StreamSupervisor.Tool

open Machine

/-- What becomes of the arguments of a wrapper. -/
inductive Wrapping where
  /-- It ends at once with a code. -/
  | done (code : Nat)
  /-- It runs a program. -/
  | run (command : List String)

/-- Run what a wrapper wraps; without a program that is a shell where there is one. -/
def unwrapInto (title : String) (shell : Option String) (environment : List String) :
    Wrapping → Chore Nat
  | .done code => pure code
  | .run (name :: arguments) => startProgram title name arguments environment
  | .run [] =>
    match shell with
    | some path => startProgram title path [] environment
    | none => pure 1

/-- Whether there is a process with a number. -/
def isProcess (text : String) : Chore Bool := do
  match number? 10 text with
  | some n =>
    if n = 1 then pure true
    else
      match ← askDone (.send n 0) with
      | .ok () => pure (0 < n)
      | .error _ => pure false
  | none => pure false

/-- The code of asking for processes: zero if all are there. -/
def processesCode (words : List String) : Chore Nat := do
  let mut code := 0
  for w in words do
    if !(← isProcess w) then code := 1
  pure code

/-! ## Ranks and processors -/

def runRanked (args environment : List String) : Chore Nat :=
  withOptions { letters := "c:n:p:P:u:tVh", permute := false, long := [("class", .required),
    ("classdata", .required), ("pid", .required), ("pgid", .required), ("uid", .required),
    ("ignore", .none)] } 1 args fun chosen command => do
    if has chosen ["h", "V"] then do
      say "usage\n"
      finish 0
    else
      let class_ := (valueOf? chosen ["c", "class"]).map fun c =>
        match c.toLower with
        | "none" => some 0
        | "realtime" => some 1
        | "best-effort" => some 2
        | "idle" => some 3
        | c => if isDigits c then c.toNat? else none
      let data := (valueOf? chosen ["n", "classdata"]).map (·.toNat?)
      let tolerant := has chosen ["t", "ignore"]
      let mayRank := match class_ with
        | some (some 1) => false
        | some (some n) => decide (n < 4)
        | some none => false
        | none => true
      if class_ == some none || data == some none then pure 1
      else
        match valueOf? chosen ["p", "P", "u", "pid", "pgid", "uid"] with
        | some first =>
          if class_.isSome || data.isSome then pure (if mayRank then 0 else 1)
          else processesCode (first :: command)
        | none =>
          if !mayRank && !tolerant then pure 1
          else if command.isEmpty then pure (if chosen.isEmpty then 0 else 1)
          else unwrapInto "ionice" none environment (.run command)

/-- Whether a text names processors, some of which there are. -/
def isProcessorList (text : String) : Bool :=
  let number (s : String) : Option Nat := if isDigits s then s.toNat? else none
  let item (s : String) : Option Nat :=
    match s.splitOn "-" with
    | [a] => number a
    | [a, b] => if (number ((b.splitOn ":").headD "")).isSome then number a else none
    | _ => none
  let items := (text.splitOn ",").map item
  items.all (·.isSome) && items.any fun i => i.any (· < 4)

/-- Whether a text is a mask in base sixteen with a processor in it. -/
def isProcessorMask (text : String) : Bool :=
  let cs := text.toList.filter (· != ',')
  let cs := match cs with
    | '0' :: 'x' :: rest => rest
    | cs => cs
  !cs.isEmpty && cs.all (fun c => (digitValue? c).any (· < 16)) && cs.any (· != '0')

def runOnProcessors (args environment : List String) : Chore Nat :=
  withOptions { letters := "apchV", permute := false, long := [("all-tasks", .none),
    ("pid", .none), ("cpu-list", .none)] } 1 args fun chosen operands => do
    if has chosen ["h", "V"] then do
      say "usage\n"
      finish 0
    else
      let isSet := if has chosen ["c", "cpu-list"] then isProcessorList else isProcessorMask
      match has chosen ["p", "pid"], operands with
      | true, [pid] => processesCode [pid]
      | true, [set_, pid] => if isSet set_ then processesCode [pid] else pure 1
      | false, set_ :: name :: arguments =>
        if isSet set_ then startProgram "taskset" name arguments environment else pure 1
      | _, _ => pure 1

def runScheduled (args environment : List String) : Chore Nat :=
  withOptions { letters := "abdD:fiphmoP:rRT:vV", permute := false, long := [
    ("all-tasks", .none), ("batch", .none), ("deadline", .none), ("fifo", .none),
    ("idle", .none), ("max", .none), ("other", .none), ("rr", .none), ("pid", .none),
    ("reset-on-fork", .none), ("sched-runtime", .required), ("sched-period", .required),
    ("sched-deadline", .required), ("verbose", .none)] } 1 args fun chosen operands => do
    if has chosen ["h", "V", "m", "max"] then do
      say "usage\n"
      finish 0
    else
      let isCommon := has chosen ["b", "i", "o", "batch", "idle", "other"]
      match has chosen ["p", "pid"], operands with
      | true, [pid] => processesCode [pid]
      | true, [rank, pid] => if isCommon && rank == "0" then processesCode [pid] else pure 1
      | false, rank :: name :: arguments =>
        if isCommon && rank == "0" then startProgram "chrt" name arguments environment
        else pure 1
      | _, _ => pure 1

/-! ## Other machines and namespaces -/

/-- The kinds of machines that can be put on. -/
def architectures : List String :=
  ["linux32", "linux64", "x86_64", "i386", "i486", "i586", "i686", "athlon", "uname26"]

/-- Run a program as on another kind of machine, which is given by the title or first. -/
def runAsMachine (title : String) (args environment : List String) : Chore Nat :=
  let named := title == "setarch"
  let (known, rest) : Bool × List String :=
    match named, args with
    | true, first :: rest =>
      if first.startsWith "-" then (true, args) else (architectures.contains first, rest)
    | true, [] => (false, [])
    | false, args => (true, args)
  if !known then do
    warn (title ++ ": unrecognized architecture")
    pure 1
  else
    withOptions { letters := "hVv3BFILRSTXZ", permute := false, long := [("list", .none),
      ("verbose", .none), ("addr-no-randomize", .none), ("fdpic-funcptrs", .none),
      ("mmap-page-zero", .none), ("addr-compat-layout", .none), ("read-implies-exec", .none),
      ("32bit", .none), ("short-inode", .none), ("whole-seconds", .none),
      ("sticky-timeouts", .none), ("3gb", .none), ("4gb", .none), ("uname-2.6", .none),
      ("show", .optional)] } 1 rest fun chosen command => do
      if has chosen ["h", "V", "list"] then do
        say "usage\n"
        finish 0
      else unwrapInto title (some "/bin/sh") environment (.run command)

/-- Run a program in the namespaces of a process; those of others are out of reach. -/
def runInNamespace (args environment : List String) : Chore Nat :=
  let letters := "aem::u::i::n::p::C::U::T::S:G:r::w::W::Ft:ZhV"
  withOptions { letters := letters, permute := false, long := [
      ("all", .none), ("target", .required), ("mount", .optional), ("uts", .optional),
      ("ipc", .optional), ("net", .optional), ("pid", .optional), ("cgroup", .optional),
      ("user", .optional), ("time", .optional), ("setuid", .required), ("setgid", .required),
      ("root", .optional), ("wd", .optional), ("wdns", .optional), ("no-fork", .none),
      ("preserve-credentials", .none), ("follow-context", .none), ("env", .none)] } 1 args
    fun chosen command => do
    if has chosen ["h", "V"] then do
      say "usage\n"
      finish 0
    else
      let harmless := ["t", "target", "F", "no-fork", "Z", "follow-context", "e", "env",
        "preserve-credentials"]
      if chosen.any fun c => !harmless.contains c.name then do
        warn "nsenter: cannot open namespace"
        pure 1
      else unwrapInto "nsenter" (some "/bin/sh") environment (.run command)

/-- Run a program in namespaces of its own, of which users may only make those for users. -/
def runUnshared (args environment : List String) : Chore Nat :=
  withOptions { letters := "hVm::u::i::n::p::C::T::fUrR:w:S:G:c", permute := false, long := [
      ("mount", .optional), ("uts", .optional), ("ipc", .optional), ("net", .optional),
      ("pid", .optional), ("cgroup", .optional), ("user", .optional), ("time", .optional),
      ("fork", .none), ("map-user", .required), ("map-group", .required),
      ("map-root-user", .none), ("map-current-user", .none), ("map-auto", .none),
      ("mount-proc", .optional), ("kill-child", .optional), ("keep-caps", .none),
      ("root", .required), ("wd", .required), ("setuid", .required), ("setgid", .required)] }
    1 args fun chosen command => do
    if has chosen ["h", "V"] then do
      say "usage\n"
      finish 0
    else
      let own := has chosen ["U", "r", "c", "user", "map-root-user", "map-current-user"]
      let others := ["m", "u", "i", "n", "p", "C", "T", "mount", "uts", "ipc", "net", "pid",
        "cgroup", "time", "R", "root"]
      if has chosen others && !own then do
        warn "unshare: unshare failed: Operation not permitted"
        pure 1
      else unwrapInto "unshare" (some "/bin/sh") environment (.run command)

/-! ## Limits and rights -/

/-- The limits that can be set, by their long names and letters. -/
def limitNames : List String :=
  ["as", "core", "cpu", "data", "fsize", "locks", "memlock", "msgqueue", "nice", "nofile",
    "nproc", "rss", "rtprio", "rttime", "sigpending", "stack"]

def runWithLimits (args environment : List String) : Chore Nat :=
  let letters := "c::d::e::f::i::l::m::n::q::r::s::t::u::v::x::y::p:o:hV"
  withOptions { letters := letters, permute := false, long := limitNames.map (fun n => (n, Arity.optional)) ++ [
      ("pid", .required), ("output", .required), ("noheadings", .none), ("raw", .none),
      ("verbose", .none)] } 1 args fun chosen command => do
    if has chosen ["h", "V"] then do
      say "usage\n"
      finish 0
    else
      let isLimit (v : String) : Bool :=
        (v.splitOn ":").all fun part => part.isEmpty || part == "unlimited" || isDigits part
      let limits := chosen.filter fun c => ! ["pid", "p", "o", "output"].contains c.name
      if limits.any fun c => c.value.any fun v => !isLimit v then do
        warn "prlimit: failed to parse limit"
        pure 1
      else
        match valueOf? chosen ["p", "pid"] with
        | some pid =>
          if command.isEmpty then processesCode [pid] else pure 1
        | none =>
          match command with
          | [] => do
            say "RESOURCE\n"
            finish 0
          | name :: arguments => startProgram "prlimit" name arguments environment

/-- Run a program with fewer rights; more of them are refused. -/
def runPrivileged (args environment : List String) : Chore Nat :=
  withOptions { letters := "dhV", permute := false, long := [("dump", .none),
    ("no-new-privs", .none), ("nnp", .none), ("ruid", .required), ("euid", .required),
    ("reuid", .required), ("rgid", .required), ("egid", .required), ("regid", .required),
    ("clear-groups", .none), ("keep-groups", .none), ("init-groups", .none),
    ("groups", .required), ("inh-caps", .required), ("ambient-caps", .required),
    ("bounding-set", .required), ("list-caps", .none), ("securebits", .required),
    ("pdeathsig", .required), ("reset-env", .none), ("selinux-label", .required),
    ("apparmor-profile", .required)] } 1 args fun chosen command => do
    if has chosen ["h", "V"] then do
      say "usage\n"
      finish 0
    else if has chosen ["d", "dump", "list-caps"] then
      if command.isEmpty then do
        say "uid: 1000\n"
        finish 0
      else pure 1
    else
      let ids := ["ruid", "euid", "reuid", "rgid", "egid", "regid"]
      let mine (v : String) : Bool := v == "1000" || v == "user"
      let foreign := chosen.any fun c =>
        ids.contains c.name && c.value.any fun v => !mine v
      match command with
      | [] => pure 1
      | name :: arguments =>
        if has chosen ["regid", "rgid", "egid"] &&
            !has chosen ["clear-groups", "keep-groups", "init-groups", "groups"] then pure 1
        else if foreign || has chosen ["clear-groups", "init-groups", "groups"] then do
          warn "setpriv: Operation not permitted"
          pure 127
        else startProgram "setpriv" name arguments environment

/-! ## Locks -/

/-- Run a program while a lock is held, which nobody else ever holds. -/
def runLocked (args environment : List String) : Chore Nat :=
  let wrong : Chore Nat := do
    warn "flock: bad usage"
    pure 64
  withOptions { letters := "sexnoFuw:E:chVv", permute := false, long := [("shared", .none),
    ("exclusive", .none), ("unlock", .none), ("nonblock", .none), ("nb", .none),
    ("timeout", .required), ("wait", .required), ("conflict-exit-code", .required),
    ("close", .none), ("no-fork", .none), ("verbose", .none), ("command", .none)], checks := [
      ⟨["w", "timeout", "wait"], 64, fun v => (Duration.ofText? v).isSome⟩,
      ⟨["E", "conflict-exit-code"], 64, fun v => (v.toNat?).any (· < 256)⟩] } 64 args
    fun chosen operands => do
    if has chosen ["h", "V"] then do
      say "usage\n"
      finish 0
    else
      let lock (path : String) (command : List String) : Chore Nat := do
        match ← openFile path { readable := true, create := true } with
        | .error .isDirectory | .ok _ =>
          let run : Chore Nat := do
            match command with
            | name :: arguments => do
              let why ← becomeProgram name arguments environment
              warn ("flock: failed to execute " ++ name ++ ": " ++ why.text)
              pure 69
            | [] => pure 64
          if has chosen ["F", "no-fork"] then run
          else do
            let pid ← Doing.fork run
            match ← Asking.ask (.collect (some pid) true) with
            | .ended _ status =>
              pure (match status.code? with
                | some code => code.toInt.toNat
                | none => 128 + (status.raw.toInt % 128).toNat)
            | _ => pure 71
        | .error .noEntry => pure 66
        | .error _ => pure 73
      match operands with
      | [] => wrong
      | [number] =>
        if isDigits number then
          match ← Asking.ask (.inspectOpen (number.toNat?.getD 0)) with
          | .info _ => pure 0
          | _ => do
            warn "flock: Bad file descriptor"
            pure 65
        else wrong
      | path :: "-c" :: rest | path :: "--command" :: rest =>
        match rest with
        | [text] => lock path ["/bin/sh", "-c", text]
        | _ => wrong
      | path :: command => lock path command

end StreamSupervisor.Tool
