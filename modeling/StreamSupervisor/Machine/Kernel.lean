import StreamSupervisor.Machine.Execution

/-! # The kernel

What the system does when a process asks for something. A request is granted, refused, or
has to wait until something happens.
-/

namespace StreamSupervisor.Machine

inductive Granting where
  /-- The process goes on with the response, after some microseconds. -/
  | answered (w : World) (p : Proc) (response : Response) (time : Nat)
  /-- The process runs something else now. -/
  | replaced (w : World) (p : Proc)
  /-- The process waits. -/
  | waiting (p : Proc)

namespace World

/-- The costs of what takes longest, in microseconds. -/
def forkTime : Nat := 150
def executeTime : Nat := 400

def pipeLimit : Nat := 65536

def kindOf : Content → FileKind
  | .directory _ => .directory
  | .file _ | .program _ => .plain
  | .link _ => .link
  | .device _ => .characters
  | .queue => .queue

/-- The number of the pipe that a file with a name is. -/
def queueOf (node : Nat) : Nat := 1000000 + node

def infoOf (w : World) (i : Nat) : FileInfo :=
  let n := w.files.node i
  { node := i, kind := kindOf n.content, mode := n.mode, mine := n.mine, size := n.size
    changed := n.changed
    /- A directory is named by the one above it, by itself, and by those within it. -/
    names := if n.isDirectory then
        2 + n.entries.countP fun e => (w.files.node e.2).isDirectory
      else n.names
    device := match n.content with
      | .device d => d.numbers
      | _ => (0, 0) }

/-- The number under which devices and pipes appear that have no file of their own. -/
def targetInfo (w : World) : Target → FileInfo
  | .node i => w.infoOf i
  | .device d =>
    let path := match d with
      | .null => "/dev/null"
      | .zero => "/dev/zero"
      | .full => "/dev/full"
      | .random => "/dev/random"
      | _ => "/dev/tty"
    match w.files.find 0 true path with
    | .ok i => w.infoOf i
    | .error _ => { node := 0, kind := .characters, mode := 438, mine := false, size := 0,
                    changed := 0, names := 1 }
  | .queue q =>
    { node := 1000000 + q, kind := .queue, mode := 384, mine := true, size := 0, changed := 0,
      names := 1 }

/-- Paths below a process's own directory of facts lead to the general one. -/
def factPath (w : World) (p : Proc) (path : String) : Except Refusal String :=
  match path.splitOn "/" with
  | "" :: "proc" :: name :: rest =>
    if isDigits name && name != "1" then
      let pid := if name == toString p.pid then some p.pid
        else name.toNat?.bind fun n => (w.proc? n).map (·.pid)
      match pid with
      | some _ => .ok (String.intercalate "/" ("" :: "proc" :: "self" :: rest))
      | none => .error .noEntry
    else .ok path
  | _ => .ok path

def inspectPath (w : World) (p : Proc) (path : String) (follow : Bool) :
    Except Refusal FileInfo := do
  let path ← w.factPath p path
  let i ← w.files.find p.directory follow path
  match (w.files.node i).content with
  | .device (.descriptor n) =>
    match w.file? p n with
    | some (_, f) =>
      if follow then .ok (w.targetInfo f.target) else .ok { w.infoOf i with kind := .link }
    | none => .error .noEntry
  | _ => .ok (w.infoOf i)

def accessPath (w : World) (p : Proc) (path : String) (right : Nat) : Except Refusal Unit := do
  let path ← w.factPath p path
  let i ← w.files.find p.directory true path
  match (w.files.node i).content with
  | .device (.descriptor n) =>
    if (p.descriptor? n).isSome then
      if right == 1 then .error .denied else .ok ()
    else .error .noEntry
  | _ => if (w.files.node i).allows right then .ok () else .error .denied

/-- Open what a number of the files stands for. -/
def openNode (w : World) (p : Proc) (i : Nat) (o : Opening) :
    Except Refusal (Nat × World × Proc) :=
  let n := w.files.node i
  let mayOpen := (!o.readable || n.allows 4) && (!o.writable || n.allows 2)
  match n.content with
  | .directory _ =>
    if o.writable then .error .isDirectory
    else if !mayOpen then .error .denied
    else .ok (w.attach p { target := .node i, opening := o })
  | .device (.descriptor number) =>
    match p.descriptor? number, w.file? p number with
    | some d, some (_, f) =>
      match f.target with
      | .queue _ =>
        if o.writable && !f.opening.writable || o.readable && !f.opening.readable then
          .error .denied
        else
          let k := p.freeNumber 0
          .ok (k, w, { p with descriptors := ⟨k, d.file, false⟩ :: p.descriptors })
      | target => .ok (w.attach p { target := target, opening := o })
    | _, _ => .error .noEntry
  | .device .terminal => .error .noDevice
  | .device d =>
    if mayOpen then .ok (w.attach p { target := .device d, opening := o }) else .error .denied
  | .link _ => .error .linkLoop
  | .queue => .error .noDevice
  | .file _ =>
    if !mayOpen then .error .denied
    else
      let w :=
        if o.truncate && o.writable then
          { w with
            files := w.files.setNode i { n with content := .file "", changed := w.now } }
        else w
      .ok (w.attach p { target := .node i, opening := o })
  | .program _ =>
    if mayOpen then .ok (w.attach p { target := .node i, opening := o }) else .error .denied

def openPath (w : World) (p : Proc) (path : String) (o : Opening) :
    Except Refusal (Nat × World × Proc) := do
  let path ← w.factPath p path
  let place ← w.files.place p.directory (!o.exclusive) path
  match place.node with
  | some i => if o.exclusive && o.create then .error .alreadyThere else w.openNode p i o
  | none =>
    if !o.create then .error .noEntry
    else if place.slash then .error .isDirectory
    else
      let mode := 438 - (438 &&& p.mask)
      let (i, files) ← w.files.create place { content := .file "", mode := mode } w.now
      .ok ({ w with files := files }.attach p { target := .node i, opening := o })

/-- The pipe that a path leads to, if it leads to one that may be opened. -/
def queueAt? (w : World) (p : Proc) (path : String) (o : Opening) : Option Nat :=
  match w.files.find p.directory true path with
  | .ok i =>
    let n := w.files.node i
    match n.content with
    | .queue =>
      if o.exclusive || o.readable && !n.allows 4 || o.writable && !n.allows 2 then none
      else some (queueOf i)
    | _ => none
  | .error _ => none

/-- Open a pipe with a name, once there is somebody at its other end. -/
def openQueue (w : World) (p : Proc) (q : Nat) (o : Opening) : Granting :=
  let isPartner (r : Proc) : Bool :=
    match r.meeting with
    | some (.awaited k other) => r.isAlive && k == q && other.writable != o.writable
    | _ => false
  let isHeld := w.hasEnd q true || w.hasEnd q false
  let w := if isHeld then w
    else { w with queues := (q, "") :: w.queues.filter fun e => e.1 != q }
  let both := o.readable && o.writable
  if both || w.hasEnd q (!o.writable) || w.procs.any isPartner then
    let (n, w, p) := w.attach { p with meeting := none } { target := .queue q, opening := o }
    let w := (w.procs.filter isPartner).foldl (fun w r =>
      match r.meeting with
      | some (.awaited _ other) =>
        let (k, w, r) := w.attach r { target := .queue q, opening := other }
        w.setProc { r with meeting := some (.met k), ready := some w.clock }
      | _ => w) w
    .answered w.rouse p (.number n) 2
  else if !p.pending.isEmpty then .answered w { p with meeting := none } .interrupted 1
  else .waiting { p with ready := none, meeting := some (.awaited q o) }

def fileText (w : World) (i : Nat) : String :=
  match (w.files.node i).content with
  | .file text => text
  | .program name => instructionMark ++ name ++ "\x00"
  | _ => ""

/-- Read from a descriptor: at most so many bytes, or up to a mark. -/
def readFrom (w : World) (p : Proc) (number most : Nat) (mark : Option Char) : Granting :=
  match w.file? p number with
  | none => .answered w p (.refused .badDescriptor) 1
  | some (i, f) =>
    if !f.opening.readable then .answered w p (.refused .badDescriptor) 1
    else
      let endlessly (c : Char) : Granting :=
        match mark with
        | none => .answered w p (.text (String.ofList (List.replicate (Nat.min most 512) c))) 20
        | some _ => .answered w p (.text (String.ofList (List.replicate 512 c))) 200
      let cut (text : String) (start : Nat) : String × Nat :=
        match mark with
        | some c => Excerpt.untilMark text start c
        | none => Excerpt.upTo text start most
      match f.target with
      | .device .null | .device .terminal | .device (.descriptor _) =>
        .answered w p (.text "") 1
      | .device .zero | .device .full => endlessly '\x00'
      | .device .random => endlessly '\xe5'
      | .node j =>
        if (w.files.node j).isDirectory then .answered w p (.refused .isDirectory) 1
        else
          let (text, place) := cut (w.fileText j) f.place
          .answered (w.setFile i { f with place := Nat.max f.place place }) p (.text text) 2
      | .queue q =>
        let text := w.queueText q
        if text.isEmpty then
          if w.hasEnd q true then
            if p.pending.isEmpty then .waiting { p with ready := none }
            else .answered w p .interrupted 1
          else .answered w p (.text "") 1
        else
          let (taken, place) := cut text 0
          .answered (w.setQueue q (Excerpt.behind text place)).rouse p (.text taken) 2

/-- Write a text to a descriptor; into a full pipe as soon as there is room again. -/
def writeTo (w : World) (p : Proc) (number : Nat) (text : String) : Granting :=
  match w.file? p number with
  | none => .answered w p (.refused .badDescriptor) 1
  | some (i, f) =>
    if !f.opening.writable then .answered w p (.refused .badDescriptor) 1
    else if text.isEmpty then .answered w p .done 1
    else
      match f.target with
      | .device .full => .answered w p (.refused .noSpace) 1
      | .device _ => .answered w p .done 2
      | .node j =>
        let n := w.files.node j
        let old := w.fileText j
        let start := if f.opening.append then old.utf8ByteSize else f.place
        let most := (p.limit 'f').soft
        if most.any (· ≤ start) then
          .answered w (p.receive 25 w.clock) (.refused .tooLarge) 1
        else
          let fitting := match most with
            | some m => (Excerpt.upTo text 0 (m - start)).1
            | none => text
          let new :=
            if start = old.utf8ByteSize then old ++ fitting
            else Excerpt.overwrite old start fitting
          let files := w.files.setNode j { n with content := .file new, changed := w.now }
          let w := { w with files := files }.setFile i
            { f with place := start + fitting.utf8ByteSize }
          if fitting.utf8ByteSize < text.utf8ByteSize then
            .answered w (p.receive 25 w.clock) (.refused .tooLarge) 2
          else .answered w p .done 2
      | .queue q =>
        if !w.hasEnd q false then
          .answered w (p.receive 13 w.clock) (.refused .brokenPipe) 1
        else
          let old := w.queueText q
          if old.utf8ByteSize + text.utf8ByteSize ≤ pipeLimit || old.isEmpty then
            .answered (w.setQueue q (old ++ text)).rouse p .done 2
          else if p.pending.isEmpty then .waiting { p with ready := none }
          else .answered w p .interrupted 1

/-- Wait for something to read, up to a deadline. -/
def awaitText (w : World) (p : Proc) (number time : Nat) : Granting :=
  let isReady := match w.file? p number with
    | some (_, f) =>
      (match f.target with
        | .queue q => !(w.queueText q).isEmpty || !w.hasEnd q true
        | _ => true)
    | none => true
  let rested := { p with deadline := none, listens := false }
  if isReady then .answered w rested .done 1
  else if !p.pending.isEmpty then .answered w rested .interrupted 1
  else
    let limit := p.deadline.getD (w.clock + time)
    if limit ≤ w.clock then .answered w rested .nothing 1
    else .waiting { p with ready := some limit, deadline := some limit, listens := true }

/-- Set a limit, which must not be raised above the hard one. -/
def setLimit (p : Proc) (letter : Char) (new : Limit) : Except Refusal Proc :=
  let old := p.limit letter
  let above (a b : Option Nat) : Bool :=
    match a, b with
    | _, none => false
    | none, some _ => true
    | some a, some b => decide (b < a)
  if above new.soft new.hard then .error .invalid
  else if above new.hard old.hard then .error .notPermitted
  else .ok { p with limits := (letter, new) :: p.limits.filter (·.1 != letter) }

def sleepFor (w : World) (p : Proc) (time : Option Nat) : Granting :=
  let wake := { p with deadline := none }
  if !p.pending.isEmpty then .answered w wake .interrupted 1
  else
    match p.deadline, time with
    | some t, _ =>
      if t ≤ w.clock then .answered w wake .done 1 else .waiting { p with ready := some t }
    | none, some t =>
      let t := w.clock + t
      .waiting { p with ready := some t, deadline := some t }
    | none, none => .waiting { p with ready := none }

def collectChild (w : World) (p : Proc) (child : Option Nat) (block : Bool) : Granting :=
  let mine := w.procs.filter fun c => c.parent == p.pid && child.all (· == c.pid)
  match mine.find? fun c => !c.isAlive with
  | some c =>
    .answered { w with procs := w.procs.filter fun q => q.pid != c.pid } p
      (.ended c.pid (c.ended.getD .killed)) 5
  | none =>
    if mine.isEmpty then .answered w p (.refused .noChild) 1
    else if !block then .answered w p .nothing 1
    else if p.pending.isEmpty then .waiting { p with ready := none }
    else .answered w p .interrupted 1

def sendTo (w : World) (p : Proc) (target : Int) (signal : Nat) : World × Response :=
  let choose (chosen : Proc → Bool) : World × Response :=
    if w.procs.any chosen then
      if signal = 0 then (w, .done) else (w.send signal chosen, .done)
    else (w, .refused .noProcess)
  if target = 1 then (w, .refused .notPermitted)
  else if 0 < target then
    if target = 4200 then (w, .done) else choose fun q => (q.pid : Int) == target
  else if target = 0 then choose fun q => q.group == p.group
  else if target = -1 then choose fun q => q.pid != p.pid
  else choose fun q => (q.group : Int) == -target

/-- Requests about paths that change the files and answer nothing else. -/
def editFiles (w : World) (p : Proc) : Request → Option (Except Refusal Files)
  | .unlink path => some (w.files.unlink p.directory path w.now)
  | .removeDirectory path => some (w.files.removeDirectory p.directory path w.now)
  | .rename a b => some (w.files.rename p.directory a b w.now)
  | .hardLink a b => some (w.files.link p.directory a b w.now)
  | .changeMode path mode => some (w.files.chmod p.directory path mode)
  | .makeDirectory path mode => some do
    let place ← w.files.place p.directory false path
    if place.node.isSome then .error .alreadyThere
    else
      let mode := mode - (mode &&& p.mask)
      let (_, f) ← w.files.create place { content := .directory [], mode := mode } w.now
      .ok f
  | .makeQueue path mode => some do
    let place ← w.files.place p.directory false path
    if place.node.isSome then .error .alreadyThere
    else
      let mode := mode - (mode &&& p.mask)
      let (_, f) ← w.files.create place { content := .queue, mode := mode } w.now
      .ok f
  | .makeLink target path => some do
    if target.isEmpty then .error .noEntry
    let place ← w.files.place p.directory false path
    if place.node.isSome then .error .alreadyThere
    else
      let (_, f) ← w.files.create place { content := .link target, mode := 511 } w.now
      .ok f
  | .touch path time => some do
    let i ← w.files.find p.directory true path
    let n := w.files.node i
    if n.mine || time.isNone && n.allows 2 then
      .ok (w.files.setNode i { n with changed := time.getD w.now })
    else .error (if time.isNone then .denied else .notPermitted)
  | _ => none

def realPathOf (w : World) (p : Proc) (path : String) : Except Refusal String := do
  let place ← w.files.place p.directory true path
  let some i := place.node | .error .noEntry
  if (w.files.node i).isDirectory then .ok (w.files.pathOf i)
  else
    let d := w.files.pathOf place.directory
    .ok (if d = "/" then "/" ++ place.name else d ++ "/" ++ place.name)

/-- Duplicate a descriptor under another number. -/
def duplicateTo (w : World) (p : Proc) (source target : Nat) : World × Proc × Response :=
  match p.descriptor? source with
  | none => (w, p, .refused .badDescriptor)
  | some d =>
    if source = target then (w, p, .number target)
    else
      let (w, p) := w.detach p target
      (w, { p with descriptors := ⟨target, d.file, false⟩ :: p.descriptors }, .number target)

def setDisposition (p : Proc) (signal : Nat) (d : Disposition) : Proc :=
  let p := { p with
    ignored := p.ignored.filter (· != signal), handled := p.handled.filter (· != signal) }
  match d with
  | .usual => p
  | .ignored =>
    { p with ignored := signal :: p.ignored, pending := p.pending.filter (· != signal) }
  | .handled => { p with handled := signal :: p.handled }

/-- Grant a request, let it wait, or refuse it. -/
def grant (programs : Programs) (w : World) (p : Proc) (r : Request) : Granting :=
  let answer {α : Type} (e : Except Refusal α) (k : α → World × Proc × Response) : Granting :=
    match e with
    | .ok a => let (w, p, r) := k a; .answered w p r 2
    | .error why => .answered w p (.refused why) 2
  match r with
  | .rest time => .answered w { p with pending := [] } (.signals p.pending) time
  | .sleep time => w.sleepFor p time
  | .await n time => w.awaitText p n time
  | .limit letter none => .answered w p (.limit (p.limit letter)) 1
  | .limit letter (some new) => answer (setLimit p letter new) fun p => (w, p, .done)
  | .openFile path o =>
    match p.exceeds (p.freeNumber 0), p.meeting, w.queueAt? p path o with
    | true, _, _ => .answered w p (.refused .tooManyOpen) 2
    | false, some (.met n), _ => .answered w { p with meeting := none } (.number n) 2
    | false, _, some q => w.openQueue p q o
    | false, _, none => answer (w.openPath p path o) fun (n, w, p) => (w, p, .number n)
  | .close n =>
    if (p.descriptor? n).isNone then .answered w p (.refused .badDescriptor) 1
    else
      let (w, p) := w.detach p n
      .answered w p .done 1
  | .duplicate n least =>
    match p.descriptor? n with
    | none => .answered w p (.refused .badDescriptor) 1
    | some d =>
      let k := p.freeNumber least
      if p.exceeds k then
        .answered w p (.refused (if p.exceeds least then .invalid else .tooManyOpen)) 1
      else .answered w { p with descriptors := ⟨k, d.file, true⟩ :: p.descriptors } (.number k) 1
  | .replace a b =>
    let (w, p, r) :=
      if p.exceeds b then (w, p, .refused .badDescriptor) else w.duplicateTo p a b
    .answered w p r 1
  | .pipe =>
    if p.exceeds (p.descriptors.length + 1) then .answered w p (.refused .tooManyOpen) 1
    else
      let q := w.nextQueue
      let w := { w with queues := (q, "") :: w.queues, nextQueue := q + 1 }
      let live := w.queues.filter fun e => e.1 == q || w.hasEnd e.1 true || w.hasEnd e.1 false
      let w := { w with queues := live }
      let (a, w, p) := w.attach p { target := .queue q, opening := { readable := true } }
      let (b, w, p) := w.attach p { target := .queue q, opening := { writable := true } }
      .answered w p (.pair a b) 2
  | .read n most => w.readFrom p n most none
  | .readUntil n mark => w.readFrom p n blockSize (some mark)
  | .write n text => w.writeTo p n text
  | .inspect path follow => answer (w.inspectPath p path follow) fun i => (w, p, .info i)
  | .inspectOpen n =>
    match w.file? p n with
    | some (_, f) => .answered w p (.info (w.targetInfo f.target)) 1
    | none => .answered w p (.refused .badDescriptor) 1
  | .access path right => answer (w.accessPath p path right) fun _ => (w, p, .done)
  | .list path =>
    match w.files.find p.directory true path with
    | .error why => .answered w p (.refused why) 2
    | .ok i =>
      let n := w.files.node i
      if !n.isDirectory then .answered w p (.refused .notDirectory) 2
      else if !n.allows 4 then .answered w p (.refused .denied) 2
      else .answered w p (.names (n.entries.map (·.1))) 5
  | .readLink path =>
    match w.files.find p.directory false path with
    | .error why => .answered w p (.refused why) 2
    | .ok i =>
      match (w.files.node i).content with
      | .link target => .answered w p (.text target) 2
      | _ => .answered w p (.refused .invalid) 2
  | .realPath path => answer (w.realPathOf p path) fun s => (w, p, .text s)
  | .enter path =>
    match w.files.find p.directory true path with
    | .error why => .answered w p (.refused why) 2
    | .ok i =>
      if !(w.files.node i).isDirectory then .answered w p (.refused .notDirectory) 2
      else if !(w.files.node i).allows 1 then .answered w p (.refused .denied) 2
      else .answered w { p with directory := i } .done 2
  | .whereAmI => .answered w p (.text (w.files.pathOf p.directory)) 2
  | .mask bits => .answered w { p with mask := bits.getD p.mask } (.number p.mask) 1
  | .execute path arguments environment =>
    match p.execute programs w.files path arguments environment with
    | .error why => .answered w p (.refused why) 10
    | .ok q =>
      let w := w.forget q (p.descriptors.map (·.file))
      .replaced w.rouse { q with ready := some (w.clock + executeTime) }
  | .collect child block => w.collectChild p child block
  | .send target signal =>
    let (w, r) := (w.setProc p).sendTo p target signal
    match w.proc? p.pid with
    | some q => .answered w q r 2
    | none => .answered w { p with ended := some .killed } r 2
  | .dispose signal d => .answered w (setDisposition p signal d) .done 1
  | .dispositionOf signal =>
    let d : Disposition :=
      if p.ignored.contains signal then .ignored
      else if p.handled.contains signal then .handled else .usual
    .answered w p (.disposition d) 1
  | .identity => .answered w p (.pair p.pid p.parent) 1
  | .putBack number text =>
    match w.file? p number with
    | some (i, f) =>
      match f.target with
      | .node _ => .answered (w.setFile i { f with place := f.place - text.utf8ByteSize }) p .done 1
      | _ => .answered w p (.refused .noSeek) 1
    | none => .answered w p (.refused .badDescriptor) 1
  | .now => .answered w p (.number w.clock) 1
  | .processes =>
    let seen := (w.procs.filter (·.isAlive)).map fun q =>
      ({ pid := q.pid, parent := q.parent, name := q.name, words := q.words } : ProcessInfo)
    .answered w p (.processes seen) 50
  | .beginSession => .answered w { p with group := p.pid } (.number p.pid) 1
  | edit =>
    match w.editFiles p edit with
    | some (.ok files) => .answered { w with files := files } p .done 3
    | some (.error why) => .answered w p (.refused why) 3
    | none => .answered w p (.refused .invalid) 1

/-- Let a process take its next step. -/
def advance (programs : Programs) (w : World) (p : Proc) : World :=
  match p.doing with
  | .exit code => (w.setProc { p with ended := some (.exited code) }).settleEnds
  | .fork child next =>
    let pid := w.nextPid
    let c : Proc := { p with
      pid := pid, parent := p.pid, doing := child, ready := some (w.clock + 2 * forkTime)
      deadline := none, pending := [], spent := 0 }
    let p := { p with doing := next pid, ready := some (w.clock + forkTime) }
    let w := w.setProc p
    { w with procs := w.procs ++ [c], nextPid := pid + 1 }
  | .ask request next =>
    match w.grant programs p request with
    | .answered w q response time =>
      let q := q.use time w.clock
      if q.isAlive then
        w.setProc { q with doing := next response, ready := some (w.clock + time) }
      else (w.setProc q).settleEnds
    | .replaced w q => w.setProc q
    | .waiting q => w.setProc q

/-- The process that goes on first. -/
def first? (w : World) : Option (Nat × Proc) :=
  w.procs.foldl (fun best p =>
    match p.ready, best with
    | some t, some (u, _) => if p.isAlive && !p.stopped && t < u then some (t, p) else best
    | some t, none => if p.isAlive && !p.stopped then some (t, p) else none
    | none, _ => best) none

/-- Let time pass until something holds, no process can go on, so much time has passed, or
the fuel is used up. -/
def run (programs : Programs) (stop : World → Bool) (limit : Option Nat) : Nat → World → World
  | 0, w => w
  | n + 1, w =>
    if stop w then w
    else
      match w.first? with
      | none => match limit with
        | some t => { w with clock := Nat.max w.clock t }
        | none => w
      | some (t, p) =>
        if limit.any (· < t) then { w with clock := Nat.max w.clock (limit.getD 0) }
        else
          run programs stop limit n
            (({ w with clock := Nat.max w.clock t } : World).advance programs p)

end World

end StreamSupervisor.Machine
