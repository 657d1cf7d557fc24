import StreamSupervisor.Shell.Process

/-! # Redirections

Descriptors are bound to other files for the time of a command. What they were bound to
before is kept under numbers out of the way, so that it can be brought back.
-/

namespace StreamSupervisor.Shell

open Machine

/-- A redirection whose words have been expanded. -/
inductive Aim where
  | file (target : Nat) (path : String) (opening : Opening)
  /-- Like another descriptor, or closed. -/
  | like (target : Nat) (source : Option Nat)
  | text (target : Nat) (text : String)
  /-- To a free descriptor, whose number a variable keeps. -/
  | kept (name : String) (aim : Aim)
  /-- A descriptor is closed for good. -/
  | shut (target : Nat)
  /-- A restricted shell does not write to files. -/
  | barred
  /-- There is no telling what was meant. -/
  | unclear

/-- A descriptor that was bound anew, and where its old file is kept, if it had one. -/
structure Saved where
  target : Nat
  copy : Option Nat

section Redirecting

variable (run : Runner)

/-- Whether an output must not be opened: a file that is there, where those are protected. -/
def outputOpening (s : State) (path : String) : Work Opening := do
  if s.has 'C' then
    match ← inspect? path true with
    | some i =>
      pure (if i.kind = .plain then { Opening.writing with exclusive := true }
        else .writing)
    | none => pure .writing
  else pure .writing

/-- The path of a redirection. The rich shell takes it apart like any word, and it has to
stay one. -/
def pathOf (w : Word) : Work (Option String) := do
  let s ← get
  if s.isRich then
    match ← expandFields run w with
    | [path] => pure (some path)
    | _ => pure none
  else do
    let path ← expandOne run false w
    pure (some path)

def aimsOf : Redirection → Work (List Aim)
  | .mk handle kind w _ => do
    let s ← get
    let d : Option Nat := match handle with
      | .number n => some n
      | _ => none
    let named (aims : List Aim) : Work (List Aim) := do
      match handle with
      | .kept name =>
        if s.isProtected name then do
          complain (name ++ ": cannot assign fd to variable")
          pure [.unclear]
        else
          match aims with
          | .like _ none :: _ =>
            match (s.value? name).bind (·.toNat?) with
            | some n => pure [.shut n]
            | none => pure [.unclear]
          | a :: rest => pure (.kept name a :: rest)
          | [] => pure []
      | _ => pure aims
    let toFile (target : Nat) (opening : String → Work Opening) : Work (List Aim) := do
      match ← pathOf run w with
      | some path => do
        let o ← opening path
        pure [.file target path o]
      | none => pure [.unclear]
    let everything (append : Bool) : Work (List Aim) := do
      match ← pathOf run w with
      | some path =>
        pure [.file 1 path (if append then .appending else .writing), .like 2 (some 1)]
      | none => pure [.unclear]
    let isBarred := s.isRich && s.has 'r' && (match kind with
      | .output | .overwrite | .append | .both | .everything _ => true
      | _ => false)
    if isBarred then return [.barred]
    let like (target : Nat) : Work (List Aim) := do
      let text ← expandOne run false w
      if text == "-" then pure [.like target none]
      else if s.isRich then
        let ds := if text.endsWith "-" then (text.dropEnd 1).toString else text
        if isDigits ds then
          let source := ds.toNat?.getD 0
          let move := if text.endsWith "-" && source != target then [Aim.like source none] else []
          pure (Aim.like target (some source) :: move)
        else if kind = .likeOutput && d.isNone then everything false
        else pure [.unclear]
      else
        match text.toList with
        | [c] =>
          if isDigit c then pure [.like target (some (c.toNat - 48))]
          else do
            complain "Bad fd number"
            fail
        | _ => do
          complain "Bad fd number"
          fail
    let aims ← match kind with
      | .input => toFile (d.getD 0) fun _ => pure .reading
      | .output => toFile (d.getD 1) (outputOpening s)
      | .overwrite => toFile (d.getD 1) fun _ => pure .writing
      | .append => toFile (d.getD 1) fun _ => pure .appending
      | .both => toFile (d.getD 0) fun _ => pure .both
      | .likeInput => like (d.getD 0)
      | .likeOutput => like (d.getD 1)
      | .lines => do
        let number := (Shell.literal w).toNat?.getD 0
        let text ← expandOne run false (((s.bodies.lookup number).map (·.word)).getD [])
        pure [.text (d.getD 0) text]
      | .line => do
        let text ← expandOne run false w
        pure [.text (d.getD 0) (text ++ "\n")]
      | .everything append => everything append
    named aims

/-- How much fits into a pipe that nobody reads from. -/
def pipeRoom : Nat := 65536

/-- A descriptor from which a text can be read. -/
def textSource (text : String) : Work (Option Nat) := do
  match ← Asking.ask .pipe with
  | .pair reading writing => do
    if text.length ≤ pipeRoom then do
      let _ ← write writing text
    else do
      let _ ← Work.fork (do
        becomeSubshell
        close reading
        let _ ← write writing text
        pure 0)
    close writing
    pure (some reading)
  | _ => pure none

/-- Keep a descriptor out of the way. -/
def keepAway (target : Nat) : Work Saved := do
  match ← askNumber (.duplicate target 10) with
  | .ok copy => pure ⟨target, some copy⟩
  | .error _ => pure ⟨target, none⟩

/-- Bind a descriptor to what another one leads to, keeping its old file where asked. -/
def bind (target : Nat) (opened : Nat) (keep : Bool) : Work (List Saved) := do
  if opened == target then pure (if keep then [⟨target, none⟩] else [])
  else do
    let saved ← if keep then do
        let x ← keepAway target
        pure [x]
      else pure []
    moveTo opened target
    pure saved

/-- Keep what a descriptor leads to under a free number, which a variable is told. -/
def keepOpen (name : String) (descriptor : Nat) (closes : Bool) : Work (Option (List Saved)) := do
  match ← askNumber (.duplicate descriptor 10) with
  | .error why => do
    complain (toString descriptor ++ ": " ++ why.text)
    pure none
  | .ok n => do
    if closes then close descriptor
    assign name none (toString n) false
    pure (some [])

/-- Complain that a file cannot be opened for a redirection. -/
def complainOfFile (path : String) (opening : Opening) (why : Refusal) : Work Unit := do
  let s ← get
  let reads := !opening.writable
  complain (if s.isRich then
      path ++ ": " ++ (if why = .alreadyThere then "cannot overwrite existing file" else why.text)
    else
      "cannot " ++ (if reads then "open " else "create ") ++ path ++ ": " ++
        (match why with
          | .noEntry | .notDirectory => if reads then "No such file" else "Directory nonexistent"
          | why => why.text))

/-- Carry out one redirection; nothing is handed back if that is not possible. -/
def takeAim (keep : Bool) : Aim → Work (Option (List Saved))
  | .file target path opening => do
    match ← openFile path opening with
    | .ok d => do
      let saved ← bind target d keep
      pure (some saved)
    | .error why => do
      complainOfFile path opening why
      pure none
  | .like target none => do
    let saved ← if keep then do
        let x ← keepAway target
        pure [x]
      else pure []
    close target
    pure (some saved)
  | .like target (some source) => do
    match ← Asking.ask (.inspectOpen source) with
    | .refused why => do
      complain (toString source ++ ": " ++ why.text)
      pure none
    | _ =>
      if source == target then pure (some [])
      else do
        let saved ← if keep then do
            let x ← keepAway target
            pure [x]
          else pure []
        let _ ← Asking.ask (.replace source target)
        pure (some saved)
  | .text target text => do
    match ← textSource text with
    | some d => do
      let saved ← bind target d keep
      pure (some saved)
    | none => pure none
  | .kept name (.file _ path opening) => do
    match ← openFile path opening with
    | .ok d => keepOpen name d true
    | .error why => do
      complainOfFile path opening why
      pure none
  | .kept name (.like _ (some source)) => keepOpen name source false
  | .kept name (.text _ text) => do
    match ← textSource text with
    | some d => keepOpen name d true
    | none => pure none
  | .shut target => do
    close target
    pure (some [])
  | .barred => do
    complain "restricted: cannot redirect output"
    pure none
  | .unclear | .kept _ _ => do
    complain "ambiguous redirect"
    pure none

def takeAims (keep : Bool) : List Aim → List Saved → Work (List Saved × Bool)
  | [], saved => pure (saved, true)
  | a :: rest, saved => do
    match ← takeAim keep a with
    | some more => takeAims keep rest (more.reverse ++ saved)
    | none => pure (saved, false)

/-- Expand redirections and carry them out. What they hide is handed back, the latest first,
with whether all of them were possible. -/
def redirect (keep : Bool) (rs : List Redirection) : Work (List Saved × Bool) := do
  if rs.isEmpty then pure ([], true)
  else do
    let mut aims : List Aim := []
    for r in rs do
      let more ← aimsOf run r
      aims := aims ++ more
    takeAims keep aims []

/-- Bring back what redirections have hidden. -/
def restore (saved : List Saved) : Work Unit := do
  for s in saved do
    match s.copy with
    | some copy => moveTo copy s.target
    | none => close s.target

/-- Forget what redirections have hidden, so that they last. -/
def dropSaved (saved : List Saved) : Work Unit := do
  for s in saved do
    match s.copy with
    | some copy => close copy
    | none => pure ()

/-- The status of a failed redirection. -/
def redirectFault : Work Nat := do
  let s ← get
  pure (if s.isRich then 1 else 2)

end Redirecting

end StreamSupervisor.Shell
