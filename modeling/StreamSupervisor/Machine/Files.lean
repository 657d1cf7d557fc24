import StreamSupervisor.Machine.Bytes
import StreamSupervisor.Machine.Refusal

/-! # Files

Files, directories, links and devices, each under a number, with directories giving names
to numbers. A path is followed one component at a time, through links, and every component
but the last has to be a directory.
-/

namespace StreamSupervisor.Machine

inductive Device where
  | null
  | zero
  /-- Reads like an endless file of zeros, but takes nothing. -/
  | full
  | random
  | terminal
  /-- Stands for whatever a process has open under this number. -/
  | descriptor (number : Nat)
deriving DecidableEq, Repr

/-- The numbers of a device: that of its driver, and its own. -/
def Device.numbers : Device → Nat × Nat
  | .null => (1, 3)
  | .zero => (1, 5)
  | .full => (1, 7)
  | .random => (1, 8)
  | .terminal => (5, 0)
  | .descriptor _ => (0, 0)

inductive Content where
  | directory (entries : List (String × Nat))
  | file (text : String)
  | link (target : String)
  | device (device : Device)
  /-- A pipe with a name. -/
  | queue
  /-- A file of machine instructions. -/
  | program (name : String)

structure FileNode where
  content : Content
  mode : Nat
  /-- Whether the file belongs to the user who runs the processes. -/
  mine : Bool := false
  /-- When the content was last changed, in microseconds from the start. -/
  changed : Int := -1000000000
  /-- The directory that holds a directory. -/
  parent : Nat := 0
  /-- How many names a file has. -/
  names : Nat := 1

namespace FileNode

def isDirectory (n : FileNode) : Bool :=
  match n.content with
  | .directory _ => true
  | _ => false

def entries (n : FileNode) : List (String × Nat) :=
  match n.content with
  | .directory entries => entries
  | _ => []

/-- How many bytes a file holds. -/
def size (n : FileNode) : Nat :=
  match n.content with
  | .directory _ => 4096
  | .file text => text.length
  | .link target => target.length
  | .device _ | .queue => 0
  | .program _ => 35000

/-- Whether the user may read (4), write (2) or execute (1) a file. -/
def allows (n : FileNode) (right : Nat) : Bool :=
  let bits := if n.mine then n.mode / 64 else n.mode
  (bits / right) % 2 == 1

end FileNode

structure Files where
  nodes : Array FileNode

/-- Where a path leads: the last directory, the name in it, and what has that name. -/
structure Place where
  directory : Nat
  name : String
  node : Option Nat
  /-- Whether the path ends in a slash. -/
  slash : Bool := false

namespace Files

def absent : FileNode := { content := .file "", mode := 0 }

def node (f : Files) (i : Nat) : FileNode := f.nodes.getD i absent

def setNode (f : Files) (i : Nat) (n : FileNode) : Files := ⟨f.nodes.setIfInBounds i n⟩

/-- Put in a new file, which gets the next number. -/
def add (f : Files) (n : FileNode) : Nat × Files := (f.nodes.size, ⟨f.nodes.push n⟩)

/-- What a name stands for in a directory. -/
def entry? (f : Files) (directory : Nat) (name : String) : Option Nat :=
  if name = "." then some directory
  else if name = ".." then some (f.node directory).parent
  else (f.node directory).entries.lookup name

/-- Give a name in a directory to a file, or take it away. -/
def setEntry (f : Files) (directory : Nat) (name : String) (child : Option Nat) (now : Int) :
    Files :=
  let d := f.node directory
  let others := d.entries.filter fun e => e.1 != name
  let entries :=
    match child with
    | some i => (name, i) :: others
    | none => others
  f.setNode directory { d with content := .directory entries, changed := now }

/-- The components of a path. -/
def components (path : String) : List String := (path.splitOn "/").filter (· != "")

def nameLimit : Nat := 255
def pathLimit : Nat := 4095
def linkLimit : Nat := 40

/-- Follow some names from a directory; the fuel bounds the names and the links followed. -/
def walk (f : Files) (follow slash : Bool) :
    Nat → Nat → Nat → List String → Except Refusal Place
  | 0, _, _, _ => .error .linkLoop
  | _ + 1, at_, _, [] =>
    .ok { directory := (f.node at_).parent, name := ".", node := some at_, slash := slash }
  | n + 1, at_, links, name :: rest =>
    let d := f.node at_
    if !d.isDirectory then .error .notDirectory
    else if !d.allows 1 then .error .denied
    else if nameLimit < name.length then .error .nameTooLong
    else
      match f.entry? at_ name with
      | none =>
        if rest.isEmpty then .ok { directory := at_, name := name, node := none, slash := slash }
        else .error .noEntry
      | some i =>
        match (f.node i).content with
        | .link target =>
          if rest.isEmpty && !follow && !slash then
            .ok { directory := at_, name := name, node := some i, slash := slash }
          else if linkLimit ≤ links then .error .linkLoop
          else
            f.walk follow slash n (if target.startsWith "/" then 0 else at_) (links + 1)
              (components target ++ rest)
        | .directory _ =>
          if rest.isEmpty then
            .ok { directory := at_, name := name, node := some i, slash := slash }
          else f.walk follow slash n i links rest
        | _ =>
          if !rest.isEmpty || slash then .error .notDirectory
          else .ok { directory := at_, name := name, node := some i, slash := slash }

/-- Where a path leads from a directory. -/
def place (f : Files) (start : Nat) (follow : Bool) (path : String) : Except Refusal Place :=
  if path.isEmpty then .error .noEntry
  else if pathLimit < path.length then .error .nameTooLong
  else
    let names := components path
    f.walk follow (path.endsWith "/") (names.length + 2 * pathLimit)
      (if path.startsWith "/" then 0 else start) 0 names

/-- What is found under a path. -/
def find (f : Files) (start : Nat) (follow : Bool) (path : String) : Except Refusal Nat :=
  match f.place start follow path with
  | .error e => .error e
  | .ok p =>
    match p.node with
    | some i => .ok i
    | none => .error .noEntry

/-- Whether the entries of a directory may be changed. -/
def mayEdit (f : Files) (directory : Nat) : Bool :=
  (f.node directory).allows 2 && (f.node directory).allows 1

/-- The path from the root to a directory. -/
def pathOf (f : Files) (directory : Nat) : String :=
  let rec climb : Nat → Nat → String → String
    | 0, _, below => below
    | n + 1, i, below =>
      if i = 0 then below
      else
        let parent := (f.node i).parent
        match (f.node parent).entries.find? fun e => e.2 == i with
        | some e => climb n parent ("/" ++ e.1 ++ below)
        | none => "(unreachable)" ++ below
  match climb 100 directory "" with
  | "" => "/"
  | path => path

/-- Make a file at a place that is still free. -/
def create (f : Files) (p : Place) (n : FileNode) (now : Int) : Except Refusal (Nat × Files) :=
  if !f.mayEdit p.directory then .error .denied
  else
    let (i, g) := f.add { n with mine := true, changed := now, parent := p.directory }
    .ok (i, g.setEntry p.directory p.name (some i) now)

/-- Take away the name of a file. -/
def unlink (f : Files) (start : Nat) (path : String) (now : Int) : Except Refusal Files := do
  let p ← f.place start false path
  let some i := p.node | .error .noEntry
  if (f.node i).isDirectory then .error .isDirectory
  else if !f.mayEdit p.directory then .error .denied
  else
    let n := f.node i
    .ok ((f.setNode i { n with names := n.names - 1 }).setEntry p.directory p.name none now)

/-- Take away an empty directory. -/
def removeDirectory (f : Files) (start : Nat) (path : String) (now : Int) :
    Except Refusal Files := do
  let p ← f.place start false path
  let some i := p.node | .error .noEntry
  /- A link is not taken for its target here, not even with a slash behind it. -/
  let bare := String.ofList (path.toList.reverse.dropWhile (· == '/')).reverse
  let isLink := match f.place start false bare with
    | .ok b => b.node.any fun j => ((f.node j).content matches .link _)
    | .error _ => false
  if !(f.node i).isDirectory || isLink then .error .notDirectory
  else if p.name = "." then .error .invalid
  else if p.name = ".." then .error .notEmpty
  else if !(f.node i).entries.isEmpty then .error .notEmpty
  else if !f.mayEdit p.directory then .error .denied
  else .ok (f.setEntry p.directory p.name none now)

/-- Whether one directory lies in another or is the same. -/
def isWithin (f : Files) (outer : Nat) : Nat → Nat → Bool
  | 0, _ => false
  | n + 1, i => i == outer || (i != 0 && f.isWithin outer n (f.node i).parent)

/-- Give a file another name; what had that name before loses it. -/
def rename (f : Files) (start : Nat) (source target : String) (now : Int) :
    Except Refusal Files := do
  let p ← f.place start false source
  let some i := p.node | .error .noEntry
  let q ← f.place start false target
  if !f.mayEdit p.directory || !f.mayEdit q.directory then .error .denied
  else if (f.node i).isDirectory && f.isWithin i 100 q.directory then .error .invalid
  else
    let moved :=
      let g := (f.setEntry p.directory p.name none now).setEntry q.directory q.name (some i) now
      let n := g.node i
      if n.isDirectory then g.setNode i { n with parent := q.directory } else g
    match q.node with
    | none => if q.slash && !(f.node i).isDirectory then .error .notDirectory else .ok moved
    | some j =>
      if i = j then .ok f
      else if (f.node j).isDirectory then
        if !(f.node i).isDirectory then .error .isDirectory
        else if !(f.node j).entries.isEmpty then .error .notEmpty
        else .ok moved
      else if (f.node i).isDirectory then .error .notDirectory
      else .ok moved

/-- Give a file one name more. Other people's files get none unless they may be read and
written. -/
def link (f : Files) (start : Nat) (source target : String) (now : Int) :
    Except Refusal Files := do
  let i ← f.find start false source
  let q ← f.place start false target
  let n := f.node i
  if n.isDirectory || !n.mine && !(n.allows 4 && n.allows 2) then .error .notPermitted
  else if q.node.isSome then .error .alreadyThere
  else if !f.mayEdit q.directory then .error .denied
  else
    .ok ((f.setNode i { n with names := n.names + 1 }).setEntry q.directory q.name (some i) now)

/-- Change the permission bits of a file. -/
def chmod (f : Files) (start : Nat) (path : String) (mode : Nat) : Except Refusal Files := do
  let i ← f.find start true path
  let n := f.node i
  if n.mine then .ok (f.setNode i { n with mode := mode }) else .error .notPermitted

/-- Put a file at a path, with the directories on the way to it. -/
def install (f : Files) (path : String) (n : FileNode) : Files :=
  let rec go (f : Files) (at_ : Nat) : List String → Files
    | [] => f
    | [name] =>
      let (i, g) := f.add { n with parent := at_ }
      g.setEntry at_ name (some i) n.changed
    | name :: rest =>
      match f.entry? at_ name with
      | some i => go f i rest
      | none =>
        let (i, g) := f.add { content := .directory [], mode := 493, parent := at_ }
        go (g.setEntry at_ name (some i) n.changed) i rest
  go f 0 (components path)

/-- Nothing but an empty root directory. -/
def empty : Files := ⟨#[{ content := .directory [], mode := 493 }]⟩

end Files

end StreamSupervisor.Machine
