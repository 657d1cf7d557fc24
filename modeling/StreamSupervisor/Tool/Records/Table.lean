import Std.Data.HashMap
import StreamSupervisor.Tool.Records.Value

/-! # Arrays of scripts for records

An array holds values under texts and under whole numbers. Its keys are gone through in the
order of the buckets that the keys fall into by their texts; in one bucket, the key that was used
last comes first. A key that was used as a whole number only falls into a bucket when the keys
are first wanted as texts.
-/

namespace StreamSupervisor.Tool.Records

open Machine

/-- What an element is found by. -/
inductive Key where
  | text (s : String)
  | whole (n : Int)

def Key.toText : Key → String
  | .text s => s
  | .whole n => toString n

/-- The key that a value makes on its own: numbers without a fraction are told from texts. -/
def Value.toKey (format : String) (v : Value) : Key :=
  match v with
  | .number f =>
    if isWhole f && f.abs < 2147483648.0 then .whole (truncated f) else .text (v.toText format)
  | v => .text (v.toText format)

/-- An element, with the times at which it was last used under its text and as a number. -/
structure Element where
  value : Value
  named : Option Nat
  counted : Option Nat
deriving Inhabited

structure Table where
  elements : Std.HashMap String Element := {}
  clock : Nat := 0
  buckets : Nat := 64
  /-- Whether the elements are the pieces of a text, under the numbers from one on. -/
  isList : Bool := false
  /-- Whether the keys are known by their texts. -/
  byText : Bool := false

instance : Inhabited Table := ⟨{}⟩

namespace Table

def size (t : Table) : Nat := t.elements.size

/-- The number of a text's bucket, before it is cut down to how many there are. -/
def scatter (s : String) : Nat :=
  s.toList.foldl (fun h c => (Nat.xor h c.toNat * 16777619) % 4294967296) 2166136261

/-- Sort by a number, the lowest first. -/
def sortedBy {α : Type} (f : α → Nat) (l : List α) : List α :=
  l.mergeSort fun a b => decide (f a ≤ f b)

/-- The pieces of a text become elements, in the order of their numbers. -/
def ofList (values : List Value) : Table :=
  { elements := Std.HashMap.ofList (values.zipIdx.map fun p =>
      (toString (p.2 + 1), ({ value := p.1, named := none, counted := some p.2 } : Element)))
    clock := values.length
    isList := true }

/-- Twice as many buckets, as soon as there are more than so many keys for each. -/
def grown (t : Table) : Table :=
  if 12 * t.buckets < t.size then { t with buckets := 2 * t.buckets } else t

/-- Room for the pieces of a text. -/
def spread (t : Table) : Table :=
  if t.isList then
    let rec fit : Nat → Nat → Nat
      | 0, b => b
      | n + 1, b => if 12 * b < t.size then fit n (2 * b) else b
    { t with isList := false, buckets := fit 40 64 }
  else t

/-- Every key is put into the bucket of its text. -/
def withTexts (t : Table) : Table :=
  let t := t.spread
  if t.byText then t
  else
    let place (p : String × Element) : Nat :=
      let n : Int := (p.1.toInt?).getD 0
      let bucket := (n % (t.buckets : Int)).toNat
      bucket * (t.clock + 1) + (t.clock - p.2.counted.getD 0)
    let unnamed := sortedBy place (t.elements.toList.filter (·.2.named.isNone))
    unnamed.foldl (fun t p =>
      { t with
        elements := t.elements.insert p.1 { p.2 with named := some t.clock }
        clock := t.clock + 1 }) { t with byText := true }

/-- The value under a key, which counts as used. -/
def find? (t : Table) (k : Key) : Option Value × Table :=
  if t.size = 0 then (none, t) else
  match k with
  | .whole n =>
    if t.isList && decide (1 ≤ n) && decide (n ≤ (t.size : Int)) then
      ((t.elements[toString n]?).map (·.value), t)
    else
      let t := t.spread
      match t.elements[toString n]? with
      | none => (none, t)
      | some e =>
        let named := if e.counted.isSome then e.named else some t.clock
        (some e.value, { t with
          elements := t.elements.insert (toString n)
            { e with counted := some t.clock, named := named }
          clock := t.clock + 1 })
  | .text s =>
    let t := t.withTexts
    match t.elements[s]? with
    | none => (none, t)
    | some e =>
      (some e.value, { t with
        elements := t.elements.insert s { e with named := some t.clock }
        clock := t.clock + 1 })

/-- A key that is there takes a value, and so does a new one. -/
def put (t : Table) (k : Key) (v : Value) : Table :=
  let (found, t) := t.find? k
  let key := k.toText
  if found.isSome then
    { t with elements := t.elements.modify key fun e => { e with value := v } }
  else
    match k with
    | .whole _ =>
      let t := t.spread
      let named := if t.byText then some t.clock else none
      let e : Element := { value := v, named := named, counted := some t.clock }
      grown { t with elements := t.elements.insert key e, clock := t.clock + 1 }
    | .text _ =>
      let t := t.withTexts
      let e : Element := { value := v, named := some t.clock, counted := none }
      grown { t with elements := t.elements.insert key e, clock := t.clock + 1 }

def erase (t : Table) (k : Key) : Table :=
  let (found, t) := t.find? k
  if found.isNone then t
  else
    let elements := t.elements.erase k.toText
    if elements.isEmpty then {}
    else { t.spread with elements := elements }

/-- The keys in the order in which they are gone through. -/
def keys (t : Table) : List String × Table :=
  let t := t.withTexts
  let place (p : String × Element) : Nat :=
    (scatter p.1 % t.buckets) * (t.clock + 1) + (t.clock - p.2.named.getD 0)
  ((sortedBy place t.elements.toList).map (·.1), t)

end Table

end StreamSupervisor.Tool.Records
