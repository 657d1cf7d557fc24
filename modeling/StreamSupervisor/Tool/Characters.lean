import StreamSupervisor.Text.Glob
import StreamSupervisor.Tool.Intake

/-! # Characters

Translating, squeezing and deleting characters. What is done is told by sets, which are
written as characters, ranges, classes and repetitions.
-/

namespace StreamSupervisor.Tool

open Machine

namespace Characters

/-- The characters of a written set, each with whether it stood behind a backslash. -/
def unescaped : Nat → List Char → List (Char × Bool)
  | 0, _ => []
  | n + 1, cs =>
    match cs with
    | [] => []
    | '\\' :: c :: rest =>
      let plain (d : Char) := (d, true) :: unescaped n rest
      match c with
      | 'n' => plain '\n'
      | 't' => plain '\t'
      | 'r' => plain '\r'
      | 'a' => plain '\x07'
      | 'b' => plain '\x08'
      | 'f' => plain '\x0c'
      | 'v' => plain '\x0b'
      | c =>
        if between '0' '7' c then
          let ds := ((c :: rest).take 3).takeWhile (between '0' '7')
          /- Three digits that are too much for a byte are two digits and a character. -/
          let ds := if 255 < (takeDigits 8 ds 0 0).1 then ds.take 2 else ds
          (Char.ofNat (takeDigits 8 ds 0 0).1, true) ::
            unescaped n ((c :: rest).drop ds.length)
        else plain c
    | c :: rest => (c, false) :: unescaped n rest

/-- A part of a set. -/
inductive Item where
  | one (c : Char)
  | range (low high : Char)
  | named (name : String)
  | equivalent (c : Char)
  /-- A character so many times; nothing for as often as needed. -/
  | times (c : Char) (count : Option Nat)

def classNames : List String :=
  ["alnum", "alpha", "blank", "cntrl", "digit", "graph", "lower", "print", "punct", "space",
    "upper", "xdigit"]

/-- What stands before a mark and a closing bracket, and what follows them. -/
def beforeClosing (mark : Char) : List (Char × Bool) →
    Option (List (Char × Bool) × List (Char × Bool))
  | (c, e) :: (d, f) :: rest =>
    if c == mark && !e && d == ']' && !f then some ([], rest)
    else (beforeClosing mark ((d, f) :: rest)).map fun (inner, after) => ((c, e) :: inner, after)
  | _ => none

/-- What a repetition's digits say, and what follows its bracket. A malformed number is told
apart from what is no repetition at all. -/
def repetition? (cs : List (Char × Bool)) : Option (Option (Option Nat × List (Char × Bool))) :=
  let isPart (p : Char × Bool) : Bool := p.1 != ']' && !p.2
  let ds := (cs.takeWhile isPart).map (·.1)
  match cs.dropWhile isPart with
  | (']', false) :: after =>
    if ds.isEmpty then some (some (none, after))
    else
      let base := if ds.head? == some '0' then 8 else 10
      let (v, _, rest) := takeDigits base ds 0 0
      if rest.isEmpty then some (some (if v = 0 then none else some v, after)) else some none
  | _ => none

/-- The parts of a set; nothing if it is malformed. -/
def items? : Nat → List (Char × Bool) → Option (List Item)
  | 0, _ => some []
  | n + 1, cs =>
    let plain : Option (List Item) :=
      match cs with
      | (a, _) :: ('-', false) :: (b, _) :: rest =>
        if b.toNat < a.toNat then none else (items? n rest).map (Item.range a b :: ·)
      | (a, _) :: rest => (items? n rest).map (Item.one a :: ·)
      | [] => some []
    let repeated : Option (List Item) :=
      match cs with
      | _ :: (c, _) :: ('*', false) :: rest =>
        match repetition? rest with
        | none => plain
        | some none => none
        | some (some (count, after)) => (items? n after).map (Item.times c count :: ·)
      | _ => plain
    let isRepetition (rest : List (Char × Bool)) : Bool :=
      match rest with
      | ('*', false) :: after => (repetition? after).any (·.isSome)
      | _ => false
    match cs with
    | ('[', false) :: (':', false) :: rest =>
      match beforeClosing ':' rest with
      | none => repeated
      | some (inner, after) =>
        let name := String.ofList (inner.map (·.1))
        if classNames.contains name then (items? n after).map (Item.named name :: ·)
        else if isRepetition rest then repeated
        else none
    | ('[', false) :: ('=', false) :: rest =>
      match beforeClosing '=' rest with
      | none => repeated
      | some ([(c, _)], after) => (items? n after).map (Item.equivalent c :: ·)
      | some _ => if isRepetition rest then repeated else none
    | ('[', false) :: _ => repeated
    | _ => plain

def setOf? (s : String) : Option (List Item) :=
  items? (s.length + 1) (unescaped (s.length + 1) s.toList)

def allBytes : List Char := (List.range 256).map Char.ofNat

/-- The characters that a part stands for, where it is repeated so often if need be. -/
def Item.members (fill : Nat) : Item → List Char
  | .one c => [c]
  | .range low high =>
    (List.range (high.toNat - low.toNat + 1)).map fun i => Char.ofNat (low.toNat + i)
  | .named name => allBytes.filter (Glob.isInClass name)
  | .equivalent c => [c]
  | .times c count => List.replicate (count.getD fill) c

def membersOf (fill : Nat) (items : List Item) : List Char := items.flatMap (Item.members fill)

def Item.isClass : Item → Bool
  | .named _ => true
  | _ => false

def Item.isCase : Item → Bool
  | .named name => name == "upper" || name == "lower"
  | _ => false

def Item.isEquivalent : Item → Bool
  | .equivalent _ => true
  | _ => false

def Item.fills : Item → Bool
  | .times _ none => true
  | _ => false

/-- The places at which classes of capital or small letters begin. -/
def casePlaces (fill : Nat) : List Item → Nat → List Nat
  | [], _ => []
  | i :: rest, place =>
    let after := casePlaces fill rest (place + (i.members fill).length)
    if i.isCase then place :: after else after

/-- What is done with the characters that are read. -/
structure Plan where
  deleted : Option (List Char) := none
  table : Option (List Char) := none
  squeezed : Option (List Char) := none

/-- What the options and sets ask for; nothing if they do not fit together. -/
def planOf? (complement delete squeezes truncates : Bool) (sets : List (List Item)) :
    Option Plan :=
  let first := sets.headD []
  let inSet (s : List Char) : List Char :=
    if complement then allBytes.filter fun c => !s.contains c else s
  let source := inSet (membersOf 0 first)
  if first.any Item.fills then none
  else
    match sets with
    | [_] =>
      some { deleted := if delete then some source else none
             squeezed := if squeezes then some source else none }
    | [_, second] =>
      if delete then
        if second.any Item.fills then none
        else some { deleted := some source, squeezed := some (membersOf 0 second) }
      else
        let fixed := (membersOf 0 second).length
        let fill := source.length - fixed
        let target := membersOf fill second
        let short := decide (target.length < source.length)
        let places := casePlaces 0 first 0
        let isWrong :=
          decide (1 < second.countP Item.fills) || second.any Item.isEquivalent ||
          (second.any fun i => i.isClass && !i.isCase) ||
          !complement && !(casePlaces fill second 0).all places.contains ||
          !truncates && short &&
            (target.isEmpty || (second.getLast?).any Item.isClass) ||
          complement && first.any Item.isClass &&
            !(decide (target.length ≤ source.length) && (target.drop 1).all (target.head? == some ·))
        if isWrong then none
        else
          let source := if truncates then source.take target.length else source
          let target := target ++ List.replicate source.length (target.getLastD '\x00')
          let pairs := (source.zip target).reverse
          some {
            table := some (allBytes.map fun c => ((pairs.find? (·.1 == c)).map (·.2)).getD c)
            squeezed := if squeezes then some target else none }
    | _ => none

/-- Keep only the first of repeated characters of a set. -/
def squeeze (holds : Char → Bool) : Option Char → List Char → List Char
  | _, [] => []
  | last, c :: rest =>
    if last == some c && holds c then squeeze holds last rest
    else c :: squeeze holds (some c) rest

/-- Whether a character is in a set, which is looked up in a table. -/
def memberTable (set_ : List Char) : Char → Bool :=
  let table := (allBytes.map set_.contains).toArray
  fun c => (table[c.toNat]?).getD false

/-- Apply a change to all that is read, piece by piece; it is told the last character that
was written. -/
def changeStream (change : Option Char → List Char → List Char) :
    Nat → Option Char → Chore Unit
  | 0, _ => pure ()
  | n + 1, last => do
    match ← Asking.ask (.read 0 blockSize) with
    | .text s =>
      if s.isEmpty then pure ()
      else do
        let out := change last s.toList
        say (String.ofList out)
        changeStream change n (out.getLast?.or last)
    | .interrupted => changeStream change n last
    | _ => pure ()

def Plan.run (p : Plan) : Chore Unit :=
  let deletes := p.deleted.map memberTable
  let table := p.table.map List.toArray
  let squeezes := p.squeezed.map memberTable
  changeStream (fun last cs =>
    let cs := match deletes with
      | some holds => cs.filter fun c => !holds c
      | none => cs
    let cs := match table with
      | some t => cs.map fun c => (t[c.toNat]?).getD c
      | none => cs
    match squeezes with
    | some holds => squeeze holds last cs
    | none => cs) endless none

end Characters

def translate (args : List String) : Chore Nat :=
  withOptions { letters := "+AcCdst", permute := false, long := [("complement", .none),
    ("delete", .none), ("squeeze-repeats", .none), ("truncate-set1", .none)] } 1 args
    fun chosen sets => do
    let delete := has chosen ["d", "delete"]
    let squeezes := has chosen ["s", "squeeze-repeats"]
    let least := if delete == squeezes then 2 else 1
    let most := if delete && !squeezes then 1 else 2
    let plan? := (sets.mapM Characters.setOf?).bind
      (Characters.planOf? (has chosen ["c", "C", "complement"]) delete squeezes
        (has chosen ["t", "truncate-set1"]))
    match plan? with
    | some plan =>
      if sets.length < least || most < sets.length then do
        warn "tr: wrong number of operands"
        pure 1
      else do
        plan.run
        finish 0
    | none => do
      warn "tr: wrong operands"
      pure 1

end StreamSupervisor.Tool
