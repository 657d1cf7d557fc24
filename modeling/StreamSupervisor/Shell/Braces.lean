import StreamSupervisor.Machine.Numeral
import StreamSupervisor.Shell.Lexicon

/-! # Braces

A word with braces around alternatives or around a range stands for several words, which
differ in what is put in the place of the braces.
-/

namespace StreamSupervisor.Shell

open Machine

/-- A piece of a word as braces see it: a bare character, or anything else. -/
inductive Scrap where
  | bare (c : Char)
  | other (p : Part)

namespace Scrap

def ofWord (w : Word) : List Scrap :=
  w.flatMap fun
    | .plain s => s.toList.map .bare
    | p => [.other p]

def toWord (l : List Scrap) : Word :=
  (l.foldl (fun acc x =>
    pushPart (match x with
      | .bare c => .plain c.toString
      | .other p => p) acc) []).reverse

/-- Cut what stands behind an opening brace into alternatives, up to the closing one. -/
def cut : Nat → List Scrap → List Scrap → List (List Scrap) →
    Option (List (List Scrap) × List Scrap)
  | _, [], _, _ => none
  | depth, x :: rest, current, done =>
    match x, depth with
    | .bare '\x7b', d => cut (d + 1) rest (x :: current) done
    | .bare '\x7d', 0 => some ((current.reverse :: done).reverse, rest)
    | .bare '\x7d', d + 1 => cut d rest (x :: current) done
    | .bare ',', 0 => cut 0 rest [] (current.reverse :: done)
    | x, d => cut d rest (x :: current) done

/-- The text of scraps that are all bare. -/
def text? (l : List Scrap) : Option String :=
  (l.mapM fun x =>
    match x with
    | Scrap.bare c => some c
    | Scrap.other _ => none).map String.ofList

end Scrap

/-- The numbers from one to another in steps. -/
def stepsBetween (first last : Int) (by_ : Nat) : List Int :=
  let by_ := Nat.max by_ 1
  let count := (last - first).natAbs / by_ + 1
  (List.range count).map fun i =>
    if first ≤ last then first + (i * by_ : Nat) else first - (i * by_ : Nat)

/-- A number with zeros in front of it, so that it takes so much room. -/
def padded (width : Nat) (n : Int) : String :=
  let ds := toString n.natAbs
  let sign := if n < 0 then "-" else ""
  sign ++ String.ofList (List.replicate (width - sign.length - ds.length) '0') ++ ds

/-- The texts that a range between braces stands for. -/
def range? (text : String) : Option (List String) :=
  let number? (s : String) : Option Int :=
    let ds := if s.startsWith "-" || s.startsWith "+" then dropChars 1 s else s
    if isDigits ds then (ds.toNat?).map fun n => if s.startsWith "-" then -(n : Int) else n
    else none
  let isPadded (s : String) : Bool :=
    let ds := if s.startsWith "-" || s.startsWith "+" then dropChars 1 s else s
    1 < ds.length && ds.startsWith "0"
  let go (a b : String) (step : Option String) : Option (List String) :=
    let by_ : Option Nat := match step with
      | none => some 1
      | some t => (number? t).map (·.natAbs)
    match by_, number? a, number? b with
    | none, _, _ => none
    | some k, some x, some y =>
      let width := if isPadded a || isPadded b then Nat.max a.length b.length else 0
      some ((stepsBetween x y k).map (padded width))
    | some k, _, _ =>
      match a.toList, b.toList with
      | [c], [d] =>
        if isLetter c && isLetter d then
          some ((stepsBetween c.toNat d.toNat k).map fun n => (Char.ofNat n.toNat).toString)
        else none
      | _, _ => none
  match text.splitOn ".." with
  | [a, b] => go a b none
  | [a, b, step] => go a b (some step)
  | _ => none

/-- The words that a word with braces stands for. -/
def spread : Nat → List Scrap → List (List Scrap)
  | 0, l => [l]
  | _ + 1, [] => [[]]
  | n + 1, x :: rest =>
    let plainly (_ : Unit) : List (List Scrap) := (spread n rest).map (x :: ·)
    match x with
    | .bare '\x7b' =>
      match Scrap.cut 0 rest [] [] with
      | none => plainly ()
      | some ([only], after) =>
        match (Scrap.text? only).bind range? with
        | some texts =>
          let behind := spread n after
          /- A backslash in a range quotes what is behind it. -/
          let scraps (t : String) : List Scrap :=
            if t == "\\" then [.other (.fixed "")] else t.toList.map .bare
          texts.flatMap fun t => behind.map (scraps t ++ ·)
        | none => plainly ()
      | some (alternatives, after) =>
        let behind := spread n after
        (alternatives.flatMap (spread n)).flatMap fun a => behind.map (a ++ ·)
    | _ => plainly ()

def Word.hasBrace (w : Word) : Bool :=
  w.any fun
    | .plain s => s.contains '\x7b'
    | _ => false

/-- The words that a word stands for. -/
def spreadWord (w : Word) : List Word :=
  if Word.hasBrace w then
    let l := Scrap.ofWord w
    (spread (l.length + 1) l).map Scrap.toWord
  else [w]

end StreamSupervisor.Shell
