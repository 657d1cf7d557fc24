import StreamSupervisor.Tool.Streams

/-! # Orders

Programs that put things into an order that nobody can foresee, or into one that keeps some
of them before others.
-/

namespace StreamSupervisor.Tool

open Machine

/-! ## By chance -/

/-- Put lines into an order that nobody can foresee; theirs is as good as any. -/
def shuffle (args : List String) : Chore Nat :=
  let rangeOf (v : String) : Option (Nat × Nat) :=
    match (v.splitOn "-").map String.toNat? with
    | [some a, some b] => if a ≤ b + 1 then some (a, b) else none
    | _ => none
  withOptions { letters := "ei:n:o:rz", long := [("echo", .none), ("input-range", .required),
    ("head-count", .required), ("output", .required), ("repeat", .none),
    ("random-source", .required), ("zero-terminated", .none)], checks := [
      ⟨["i", "input-range"], 1, fun v => (rangeOf v).isSome⟩,
      ⟨["n", "head-count"], 1, isDigits⟩] } 1 args fun chosen names => do
    let range := (valueOf? chosen ["i", "input-range"]).bind rangeOf
    let words := has chosen ["e", "echo"]
    let wrong (why : String) : Chore Nat := do
      warn ("shuf: " ++ why)
      pure 1
    if range.isSome && (words || !names.isEmpty) || !words && 1 < names.length then
      wrong "extra operand"
    else do
      let mark := if has chosen ["z", "zero-terminated"] then '\x00' else '\n'
      let (items, ok) ← match range with
        | some (a, b) => pure ((List.range (b + 1 - a)).map fun i => toString (a + i), true)
        | none =>
          if words then pure (names, true)
          else do
            let (text, ok) ← allText names
            pure (linesBy mark text, ok)
      let most := (valueOf? chosen ["n", "head-count"]).bind String.toNat?
      let repeats := has chosen ["r", "repeat"]
      if !ok then pure 1
      else if repeats && items.isEmpty && most != some 0 then wrong "no lines to repeat"
      else do
        let items := items.reverse
        let text (l : List String) : String := String.join (l.map (· ++ mark.toString))
        if repeats then
          match most with
          | some n => say (text ((List.range n).map fun i => (items[i % items.length]?).getD ""))
          | none => return ← repeatText (text items) endless
        else
          let kept := match most with
            | some n => items.take n
            | none => items
          match valueOf? chosen ["o", "output"] with
          | some path =>
            match ← openFile path .writing with
            | .ok d => do
              let _ ← write d (text kept)
            | .error _ => return 1
          | none => say (text kept)
        finish 0

/-! ## One before the other -/

/-- A thing to be put in order: how many others are still to come before it, and those that
come behind it. -/
structure Item where
  before : Nat := 0
  behind : List String := []
  done : Bool := false

/-- Things by their names, in the order of the names. -/
abbrev Items := List (String × Item)

def Items.update (items : Items) (name : String) (f : Item → Item) : Items :=
  items.map fun p => if p.1 == name then (p.1, f p.2) else p

/-- Things and pairs of them, of which the first comes before the second. -/
def Items.ofWords : List String → Items → Items
  | a :: b :: rest, items =>
    let add (items : Items) (name : String) : Items :=
      if items.any (·.1 == name) then items
      else items.takeWhile (fun p => bytesBefore p.1 name) ++ (name, {}) ::
        items.dropWhile fun p => bytesBefore p.1 name
    let items := add (add items a) b
    let items := if a == b then items
      else
        (items.update b fun i => { i with before := i.before + 1 }).update a fun i =>
          { i with behind := b :: i.behind }
    Items.ofWords rest items
  | _, items => items

/-- Take a thing off the queue, and put those into it that nothing comes before any more. -/
def Items.drain : Nat → Items → List String → List String → Items × List String
  | 0, items, _, out => (items, out)
  | _, items, [], out => (items, out)
  | n + 1, items, name :: queue, out =>
    let behind := ((items.lookup name).map (·.behind)).getD []
    let (items, queue) := behind.foldl (fun (items, queue) b =>
      let items := Items.update items b fun i => { i with before := i.before - 1 }
      let isFree := (items.lookup b).any fun i => i.before = 0
      (items, if isFree then queue ++ [b] else queue)) (items, queue)
    drain n (items.update name fun i => { i with done := true }) queue (name :: out)

/-- Look for a circle among the things that are left, and break it up. The path at hand leads
from its first thing on. -/
def Items.breakCircle : Nat → Items → List String → List String → Items
  | 0, items, _, _ => items
  | n + 1, items, [], path =>
    /- Begin anew with the first thing, along the same path. -/
    breakCircle n items (items.map (·.1)) path
  | n + 1, items, name :: names, path =>
    match items.lookup name with
    | none => breakCircle n items names path
    | some i =>
      if i.before = 0 then breakCircle n items names path
      else
        match path with
        | [] => breakCircle n items names [name]
        | goal :: _ =>
          if !i.behind.contains goal then breakCircle n items names path
          else if path.dropLast.contains name then
            (items.update name fun i => { i with behind := i.behind.erase goal }).update goal
              fun i => { i with before := i.before - 1 }
          else breakCircle n items names (name :: path)

/-- All names in order, and whether there was no circle among them. -/
def Items.order : Nat → Items → List String → Bool → List String × Bool
  | 0, _, out, ok => (out.reverse, ok)
  | n + 1, items, out, ok =>
    let free := (items.filter fun p => p.2.before = 0 && !p.2.done).map (·.1)
    let (items, out) := items.drain (items.length * items.length + items.length + 1) free out
    if items.all (·.2.done) then (out.reverse, ok)
    else
      let size := items.length + 1
      Items.order n (items.breakCircle (2 * size * size) [] []) out false

def sortTopologically (args : List String) : Chore Nat :=
  withOptions { letters := "w" } 1 args fun _ names => do
    if 1 < names.length then do
      warn "tsort: extra operand"
      pure 1
    else do
      let (text, ok) ← allText names
      let words := ((text.split isSpace).toStringList).filter (!·.isEmpty)
      if !ok then pure 1
      else if words.length % 2 = 1 then do
        warn "tsort: input contains an odd number of tokens"
        pure 1
      else do
        let (order, ok) := Items.order (words.length + 1) (Items.ofWords words []) [] true
        for w in order do say (w ++ "\n")
        finish (if ok then 0 else 1)

end StreamSupervisor.Tool
