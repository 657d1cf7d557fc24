import StreamSupervisor.Tool.Dates
import StreamSupervisor.Tool.Format
import StreamSupervisor.Tool.Starters
import StreamSupervisor.Tool.Streams

/-! # Facts

Programs that say something, tell a fact about the machine or the user, judge a condition,
wait, or send a signal.
-/

namespace StreamSupervisor.Tool

open Machine

/-! ## Saying -/

/-- A program that shows help if that is all it is asked for. -/
def withHelp (args : List String) (go : Chore Nat) (code : Nat) : Chore Nat := do
  if args == ["--help"] || args == ["--version"] then do
    introduce (args.contains "--version")
    finish code
  else go

def succeed (args : List String) : Chore Nat := withHelp args (pure 0) 0

def failAlways (args : List String) : Chore Nat := withHelp args (pure 1) 1

def echoWords (args : List String) : Chore Nat :=
  withHelp args (do
    let isFlags (a : String) : Bool :=
      match a.toList with
      | '-' :: c :: cs => (c :: cs).all fun x => "neE".toList.contains x
      | _ => false
    let flags := args.takeWhile isFlags
    let letters := flags.flatMap fun f => f.toList.filter (· != '-')
    let escapes := (letters.filter (· != 'n')).getLast? == some 'e'
    let text := " ".intercalate (args.drop flags.length)
    let (text, ended) :=
      if escapes then Format.unescape .tool (text.length + 1) text.toList [] else (text, false)
    say (if ended || letters.contains 'n' then text else text ++ "\n")
    finish 0) 0

def formatText (args : List String) : Chore Nat :=
  withHelp args (do
    let args := if args.head? == some "--" then args.drop 1 else args
    match args with
    | [] => do
      warn "printf: missing operand"
      pure 1
    | format :: args => do
      let w := Format.run .tool {} format args
      for (text, trouble) in w.stretches do
        say text
        match trouble with
        | some why => warn ("printf: " ++ why)
        | none => pure ()
      finish w.code) 0

def judgeCondition (bracketed : Bool) (args : List String) : Chore Nat := do
  if bracketed && (args == ["--help"] || args == ["--version"]) then do
    introduce (args.contains "--version")
    finish 0
  else
    match ← Condition.ofArguments .tool bracketed args fun _ _ => pure none with
    | .ok holds => pure (if holds then 0 else 1)
    | .error why => do
      warn ((if bracketed then "[: " else "test: ") ++ why.message .tool)
      pure 2

/-! ## Waiting -/

def pause (args : List String) : Chore Nat :=
  withOptions { letters := "" } 1 args fun _ times =>
    if times.isEmpty then do
      warn "sleep: missing operand"
      pure 1
    else
      match Duration.ofTexts? times with
      | none => do
        warn "sleep: invalid time interval"
        pure 1
      | some (.micros 0) => pure 0
      | some (.micros n) => do
        let _ ← Asking.ask (.sleep (some n))
        pure 0
      | some .forever => do
        let _ ← Asking.ask (.sleep none)
        pure 0

/-! ## The machine -/

/-- A program that takes some options and no operands, or any, and writes a line. -/
def factLine (letters : String) (long : List (String × Arity)) (wrong : Nat)
    (takesOperands : Bool) (line : String) (args : List String) : Chore Nat :=
  withOptions { letters := letters, long := long } wrong args fun _ operands => do
    if !operands.isEmpty && !takesOperands then do
      warn "extra operand"
      pure wrong
    else do
      say (line ++ "\n")
      finish 0

def systemName (args : List String) : Chore Nat :=
  withOptions { letters := "asnrvmpio", long := [("all", .none), ("kernel-name", .none),
    ("sysname", .none), ("nodename", .none), ("kernel-release", .none), ("release", .none),
    ("kernel-version", .none), ("machine", .none), ("processor", .none),
    ("hardware-platform", .none), ("operating-system", .none)] } 1 args fun chosen operands => do
    if !operands.isEmpty then do
      warn "uname: extra operand"
      pure 1
    else do
      let all := has chosen ["a", "all"]
      let parts :=
        (if chosen.isEmpty || all || has chosen ["s", "kernel-name", "sysname"] then ["Linux"]
          else []) ++
        (if all || has chosen ["n", "nodename"] then ["machine"] else []) ++
        (if all || has chosen ["r", "kernel-release", "release"] then ["6.1.0"] else []) ++
        (if all || has chosen ["v", "kernel-version"] then ["#1 SMP"] else []) ++
        (if all || has chosen ["m", "machine"] then ["x86_64"] else []) ++
        (if has chosen ["p", "processor"] then ["unknown"] else []) ++
        (if has chosen ["i", "hardware-platform"] then ["unknown"] else []) ++
        (if all || has chosen ["o", "operating-system"] then ["GNU/Linux"] else [])
      say (" ".intercalate parts ++ "\n")
      finish 0

/-- How many processors there are. -/
def countProcessors (args : List String) : Chore Nat :=
  withOptions { letters := "", long := [("all", .none), ("ignore", .required)], checks := [
      ⟨["ignore"], 1, isDigits⟩] } 1 args fun chosen operands => do
    if !operands.isEmpty then pure 1
    else do
      let less := ((valueOf? chosen ["ignore"]).bind String.toNat?).getD 0
      say (toString (Nat.max 1 (4 - less)) ++ "\n")
      finish 0

def hostName (args : List String) : Chore Nat :=
  withOptions { letters := "aAdfbF:hiIsVy", long := [("domain", .none), ("boot", .none),
    ("file", .required), ("fqdn", .none), ("all-fqdns", .none), ("long", .none),
    ("short", .none), ("alias", .none), ("ip-address", .none), ("all-ip-addresses", .none),
    ("nis", .none), ("yp", .none)] } 255 args fun chosen operands => do
    if has chosen ["h", "V"] then pure 0
    else if has chosen ["y", "nis", "yp"] then do
      warn "hostname: Local domain name not set"
      pure 1
    else if has chosen ["F", "file"] || !operands.isEmpty then do
      warn "hostname: you must be root to change the host name"
      pure 1
    else if has chosen ["d", "domain"] then do
      say "\n"
      finish 0
    else do
      say "machine\n"
      finish 0

/-! ## The user -/

/-- The numbers and names of users or groups in a file of theirs. -/
def entriesOf (path : String) : Chore (List (String × String)) := do
  match ← openFile path .reading with
  | .error _ => pure []
  | .ok d => do
    let text ← readAll d
    close d
    pure ((lines text).filterMap fun l =>
      match l.splitOn ":" with
      | name :: _ :: number :: _ => some (name, number)
      | _ => none)

def userNumber : String := "1000"

def identify (args : List String) : Chore Nat :=
  withOptions { letters := "agnruzGZ", long := [("context", .none), ("group", .none),
    ("groups", .none), ("name", .none), ("real", .none), ("user", .none), ("zero", .none)] } 1
    args fun chosen names => do
    let kinds := (if has chosen ["u", "user"] then 1 else 0) +
      (if has chosen ["g", "group"] then 1 else 0) +
      (if has chosen ["G", "groups"] then 1 else 0)
    let modified := has chosen ["n", "r", "z", "name", "real", "zero"]
    if 1 < kinds || kinds = 0 && modified || has chosen ["Z", "context"] then do
      warn "id: cannot print"
      pure 1
    else do
      let users ← entriesOf "/etc/passwd"
      let mut code := 0
      for name in (if names.isEmpty then [""] else names) do
        let number? := if name.isEmpty then some userNumber
          else match users.lookup name with
            | some n => some n
            | none => if users.any (·.2 == name) then some name else none
        match number? with
        | none => do
          warn ("id: '" ++ name ++ "': no such user")
          code := 1
        | some n =>
          if kinds = 0 then say ("uid=" ++ n ++ " gid=" ++ n ++ " groups=" ++ n ++ "\n")
          else if has chosen ["n", "name"] then
            match users.find? (·.2 == n) with
            | some u => say (u.1 ++ "\n")
            | none => do
              say (n ++ "\n")
              code := 1
          else say (n ++ "\n")
      finish code

def showGroups (args : List String) : Chore Nat :=
  withOptions { letters := "" } 1 args fun _ names => do
    let users ← entriesOf "/etc/passwd"
    let known := names.filter fun n => users.any (·.1 == n)
    for n in known do say (n ++ " : " ++ n ++ "\n")
    if names.isEmpty then say (userNumber ++ "\n")
    finish (if known.length == names.length then 0 else 1)

def lookUp (args : List String) : Chore Nat :=
  withOptions { letters := "As:i", permute := true, long := [("service", .required),
    ("no-idn", .none), ("no-addrconfig", .none), ("usage", .none)] } 64 args fun _ operands => do
    match operands with
    | [] => do
      warn "getent: wrong number of arguments"
      pure 1
    | database :: keys => do
      let path := if database == "passwd" then "/etc/passwd"
        else if database == "group" then "/etc/group" else ""
      if path.isEmpty then
        if ["hosts", "ahosts", "services", "protocols", "networks", "shadow", "gshadow", "ethers",
            "netgroup", "rpc", "aliases", "initgroups", "ahostsv4", "ahostsv6"].contains database
        then
          if keys.isEmpty || keys == ["localhost"] then pure 0 else pure 2
        else pure 1
      else do
        match ← openFile path .reading with
        | .error _ => pure 2
        | .ok d => do
          let text ← readAll d
          close d
          let ls := lines text
          let mut code := 0
          if keys.isEmpty then say text
          for k in keys do
            match ls.find? fun l =>
                match l.splitOn ":" with
                | name :: _ :: number :: _ => name == k || number == k
                | _ => false with
            | some l => say (l ++ "\n")
            | none => code := 2
          finish code

/-- The name of who logged in; nobody has. -/
def loginName (args : List String) : Chore Nat :=
  withOptions { letters := "" } 1 args fun _ _ => do
    warn "logname: no login name"
    pure 1

/-! ## Time -/

/-- The formats in which options ask for a date; nothing where they leave it open. -/
def dateFormats (chosen : List Choice) : List String :=
  chosen.filterMap fun c =>
    let v := c.value.getD ""
    match c.name with
    | "I" | "iso-8601" =>
      let kinds := [("hours", "%Y-%m-%dT%H%:z"), ("minutes", "%Y-%m-%dT%H:%M%:z"),
        ("date", "%Y-%m-%d"), ("seconds", "%Y-%m-%dT%H:%M:%S%:z"),
        ("ns", "%Y-%m-%dT%H:%M:%S,%N%:z")]
      if c.value.isNone then some "%Y-%m-%d"
      else (kinds.find? fun k => k.1.startsWith v).map (·.2)
    | "rfc-3339" =>
      let kinds := [("date", "%Y-%m-%d"), ("seconds", "%Y-%m-%d %H:%M:%S%:z"),
        ("ns", "%Y-%m-%d %H:%M:%S.%N%:z")]
      (kinds.find? fun k => k.1.startsWith v).map (·.2)
    | "R" | "rfc-email" | "rfc-822" | "rfc-2822" => some "%a, %d %b %Y %H:%M:%S %z"
    | _ => none

/-- The present, as the machine's clock and a zone tell it. -/
def present (zone : Zone) : Chore Instant := do
  let micros := match ← askNumber .now with
    | .ok t => t
    | .error _ => 0
  pure { seconds := ((epoch + micros / 1000000 : Nat) : Int), nanos := micros % 1000000 * 1000
         zone := zone }

/-- When a file was changed, given the time of the machine's clock. -/
def changeTime (zone : Zone) (micros : Int) : Instant :=
  { seconds := (epoch : Int) + micros / 1000000, nanos := (micros % 1000000 * 1000).toNat
    zone := zone }

def showDate (args environment : List String) : Chore Nat :=
  withOptions { letters := "d:f:I::r:Rs:u", long := [("date", .required), ("debug", .none),
    ("file", .required), ("iso-8601", .optional), ("reference", .required),
    ("resolution", .none), ("rfc-email", .none), ("rfc-822", .none), ("rfc-2822", .none),
    ("rfc-3339", .required), ("set", .required), ("uct", .none), ("utc", .none),
    ("universal", .none)], checks := [
      .words ["I", "iso-8601"] ["hours", "minutes", "date", "seconds", "ns"],
      .words ["rfc-3339"] ["date", "seconds", "ns"]] } 1 args fun chosen operands => do
    let zone : Zone :=
      if has chosen ["u", "utc", "uct", "universal"] then {}
      else Zone.ofText ((environmentValue? environment "TZ").getD "")
    let now ← present zone
    let wrong : Chore Nat := do
      warn "date: invalid date"
      pure 1
    let sources := [["d", "date"], ["f", "file"], ["r", "reference"]].countP (has chosen)
    let formats := dateFormats chosen ++ (operands.filter (·.startsWith "+")).map (dropChars 1)
    if has chosen ["s", "set"] || 1 < sources || 1 < operands.length || 1 < formats.length ||
        operands.any fun o => !o.startsWith "+" then wrong
    else do
      let format := formats.headD "%a %b %e %H:%M:%S %Z %Y"
      let shown (t : Instant) : String := t.text format ++ "\n"
      match valueOf? chosen ["d", "date"], valueOf? chosen ["r", "reference"],
        valueOf? chosen ["f", "file"] with
      | some d, _, _ =>
        match timeOf? now d with
        | some t => do
          say (shown t)
          finish 0
        | none => wrong
      | none, some path, _ =>
        match ← inspect? path true with
        | some i => do
          say (shown (changeTime zone i.changed))
          finish 0
        | none => wrong
      | none, none, some path => do
        let (text, ok) ← allText [path]
        if !ok then return 1
        let mut code := 0
        for l in lines text do
          match timeOf? now l with
          | some t => say (shown t)
          | none => code ← wrong
        finish code
      | none, none, none => do
        say (shown now)
        finish 0

/-! ## Places and variables -/

def showDirectory (environment : List String) (args : List String) : Chore Nat :=
  withOptions { letters := "LP", long := [("logical", .none), ("physical", .none)] } 1 args
    fun chosen _ => do
    match ← askText .whereAmI with
    | .error _ => pure 1
    | .ok here => do
      let claimed := (environmentValue? environment "PWD").getD ""
      let same ← do
        match ← inspect? claimed true, ← inspect? "." true with
        | some a, some b => pure (a.node == b.node)
        | _, _ => pure false
      let logical := (chosen.getLast?.map (·.name)).any fun n => n == "L" || n == "logical"
      say ((if logical && same && claimed.startsWith "/" then claimed else here) ++ "\n")
      finish 0

def showVariables (environment : List String) (args : List String) : Chore Nat :=
  withOptions { letters := "0", permute := false, long := [("null", .none)] } 2 args
    fun chosen names => do
    let mark := if has chosen ["0", "null"] then "\x00" else "\n"
    if names.isEmpty then do
      for e in environment do say (e ++ mark)
      finishWith 2 0
    else do
      let mut code := 0
      for n in names do
        match environmentValue? environment n with
        | some v => say (v ++ mark)
        | none => code := 1
      finishWith 2 code

def showTerminal (args : List String) : Chore Nat :=
  withOptions { letters := "s", long := [("silent", .none), ("quiet", .none)] } 2 args
    fun chosen operands => do
    if !operands.isEmpty then pure 2
    else do
      if !has chosen ["s", "silent", "quiet"] then say "not a tty\n"
      finishWith 3 1

/-- Look for programs along the search path. -/
def findPrograms (environment : List String) (args : List String) : Chore Nat := do
  match ({ letters := "as", permute := false } : Options).parse args with
  | none => do
    warn "Illegal option"
    pure 2
  | some (chosen, names) => do
    let path := (environmentValue? environment "PATH").getD ""
    let mut missing := names.isEmpty
    for n in names do
      let places := if n.contains '/' then [n] else (path.splitOn ":").map fun d =>
        (if d.isEmpty then "." else d) ++ "/" ++ n
      let mut found := false
      for p in places do
        if !found || has chosen ["a"] then
          match ← inspect? p true with
          | some i =>
            if i.kind == .plain then
              if ← mayAccess p 1 then do
                if !has chosen ["s"] then say (p ++ "\n")
                found := true
          | none => pure ()
      if !found then missing := true
    finish (if missing then 1 else 0)

/-! ## Signals -/

def killProcesses (args : List String) : Chore Nat := do
  let usage : Chore Nat := do
    warn "Usage: kill [options] <pid> [...]"
    pure 1
  let named? (a : String) : Option Nat := signalLong? a
  let rec go : Nat → List String → Option Nat → List String → Option (Nat × List String)
    | 0, _, _, _ => none
    | _ + 1, [], signal, pids => some (signal.getD 15, pids.reverse)
    | n + 1, a :: rest, signal, pids =>
      if a == "-s" || a == "--signal" then
        match rest with
        | name :: rest => (named? name).bind fun s => go n rest (some s) pids
        | [] => none
      else if a == "--" then some (signal.getD 15, pids.reverse ++ rest)
      else if a.startsWith "-" && signal.isNone && pids.isEmpty then
        (named? (dropChars 1 a)).bind fun s => go n rest (some s) pids
      else go n rest signal (a :: pids)
  match args with
  | [] => usage
  | first :: _ =>
    if first == "-l" || first == "-L" || first == "--list" || first == "--table" then do
      say (" ".intercalate signalNames ++ "\n")
      finish 0
    else if first == "--help" || first == "-h" || first == "-V" || first == "--version" then
      pure 0
    else
      match go (args.length + 1) args none [] with
      | none => usage
      | some (signal, pids) =>
        if pids.isEmpty then usage
        else do
          let mut code := 0
          for p in pids do
            match Machine.number? 10 p with
            | none => do
              warn ("kill: failed to parse argument: '" ++ p ++ "'")
              code := 1
            | some pid =>
              match ← askDone (.send pid signal) with
              | .ok () => pure ()
              | .error why => do
                warn ("kill: sending signal failed: " ++ why.text)
                code := 1
          finish code

/-! ## Copies of blocks -/

/-- A count of bytes with a unit, or a product of such counts. -/
def blockCount? (s : String) : Option Nat :=
  (s.splitOn "x").foldl (fun acc part =>
    match acc, count? part with
    | some n, some c => if c.sign.isSome then none else some (n * c.value)
    | _, _ => none) (some 1)

/-- Copy so many blocks; says how many bytes were copied. -/
def copyBlocks (source target size : Nat) (sync : Bool) :
    Nat → Option Nat → Nat → Chore (Nat × Bool)
  | 0, _, done => pure (done, true)
  | _, some 0, done => pure (done, true)
  | n + 1, count, done => do
    match ← Asking.ask (.read source size) with
    | .text t =>
      if t.isEmpty then pure (done, true)
      else
        let t := if sync then t ++ String.ofList (List.replicate (size - t.length) '\x00') else t
        match ← write target t with
        | .ok () => copyBlocks source target size sync n (count.map (· - 1)) (done + t.length)
        | .error _ => pure (done, false)
    | .refused _ => pure (done, false)
    | _ => pure (done, true)

def copyRaw (args : List String) : Chore Nat := do
  let known := ["if", "of", "bs", "ibs", "obs", "cbs", "count", "skip", "iseek", "seek", "oseek",
    "conv", "iflag", "oflag", "status"]
  let wrong (why : String) : Chore Nat := do
    warn ("dd: " ++ why)
    pure 1
  if args == ["--help"] || args == ["--version"] then do
    introduce (args.contains "--version")
    finish 0
  else
    let settings := (if args.head? == some "--" then args.drop 1 else args).map (splitAtChar? '=')
    if settings.any fun s => !s.any fun (k, _) => known.contains k then
      wrong "unrecognized operand"
    else
      let pairs := settings.filterMap id
      let value (k : String) : Option String := (pairs.reverse.find? (·.1 == k)).map (·.2)
      let numbers := ["bs", "ibs", "obs", "cbs", "count", "skip", "seek", "iseek", "oseek"]
      let isBad (k : String) : Bool := (value k).any fun v =>
        match blockCount? (if v.endsWith "B" && v.length != 1 && isDigits (v.dropEnd 1).toString then
          (v.dropEnd 1).toString else v) with
        | none => true
        | some 0 => ["bs", "ibs", "obs", "cbs"].contains k
        | some _ => false
      let conversions := ((value "conv").map (·.splitOn ",")).getD []
      let knownConversions := ["ascii", "ebcdic", "ibm", "block", "unblock", "lcase", "ucase",
        "sparse", "swab", "sync", "excl", "nocreat", "notrunc", "noerror", "fdatasync", "fsync"]
      if numbers.any isBad then wrong "invalid number"
      else if (((value "iflag").toList ++ (value "oflag").toList).flatMap (·.splitOn ",")).any
          fun f => ! ["append", "direct", "directory", "dsync", "sync", "fullblock", "nonblock",
            "noatime", "nocache", "noctty", "nofollow", "nolinks", "binary", "text",
            "count_bytes", "skip_bytes", "seek_bytes"].contains f then wrong "invalid flag"
      else if conversions.any fun c => !knownConversions.contains c then wrong "invalid conversion"
      else if (value "status").any fun s => ! ["none", "noxfer", "progress"].contains s then
        wrong "invalid status level"
      else do
        let number (k : String) : Option Nat := (value k).bind blockCount?
        let size := ((number "bs").orElse fun _ => number "ibs").getD 512
        let source? ← match value "if" with
          | none => pure (some 0)
          | some path =>
            match ← openFile path .reading with
            | .ok d => pure (some d)
            | .error why => do
              warn ("dd: failed to open '" ++ path ++ "': " ++ why.text)
              pure none
        match source? with
        | none => pure 1
        | some source => do
          let how : Opening := {
            writable := true, create := !conversions.contains "nocreat"
            truncate := !conversions.contains "notrunc" && (number "seek").isNone
            exclusive := conversions.contains "excl" }
          let target? ← match value "of" with
            | none => pure (some 1)
            | some path =>
              match ← openFile path how with
              | .ok d => pure (some d)
              | .error why => do
                warn ("dd: failed to open '" ++ path ++ "': " ++ why.text)
                pure none
          match target? with
          | none => pure 1
          | some target => do
            match (number "skip").orElse fun _ => number "iseek" with
            | some k =>
              let _ ← Asking.ask (.read source (k * size))
            | none => pure ()
            let (done, ok) ← copyBlocks source target size (conversions.contains "sync") endless
              (number "count") 0
            if value "status" != some "none" then warn (toString done ++ " bytes copied")
            finish (if ok then 0 else 1)

end StreamSupervisor.Tool
