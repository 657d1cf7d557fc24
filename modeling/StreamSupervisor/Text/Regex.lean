import StreamSupervisor.Text.Glob

/-! # Regular expressions

The basic and the extended form of regular expressions. A match begins as early as it can,
and of those that begin there the longest is taken.
-/

namespace StreamSupervisor

open Machine

inductive Regex where
  | empty
  | atom (a : Glob.Atom)
  | textStart
  | textEnd
  | lineStart
  | lineEnd
  | wordStart
  | wordEnd
  | boundary (holds : Bool)
  | sequence (a b : Regex)
  | either (a b : Regex)
  | times (r : Regex) (least : Nat) (most : Option Nat)
  | group (number : Nat) (r : Regex)
  | again (number : Nat)
  /-- Repetitions that had better be few. -/
  | lazily (r : Regex) (least : Nat) (most : Option Nat)
  /-- The preferred match and no other. -/
  | firm (r : Regex)
  /-- Whether something matches ahead, or up to here, or does not. -/
  | look (behind holds : Bool) (r : Regex)
  | caseless (r : Regex)
  /-- Where the match shall seem to begin. -/
  | keep

namespace Regex

/-! ## Reading -/

/-- What is left to read, how many groups were opened, and how mistakes are taken. -/
structure Reading where
  rest : List Char
  groups : Nat := 0
  /-- Whether a letter behind a backslash may stand for a blank. -/
  blanks : Bool := false
  /-- Whether a repetition has to have something to repeat. -/
  strict : Bool := false
  /-- Whether a class without brackets of its own is a mistake. -/
  bareClass : Bool := false
  /-- Whether the text has lines, which nothing but an explicit line end goes beyond. -/
  byLines : Bool := false

abbrev Read := StateT Reading (Except String)

def isWord (c : Char) : Bool := isNameChar c

def wordSet (negated : Bool) : Regex :=
  .atom (.set negated [.named "alnum", .one '_'])

def spaceSet (negated : Bool) : Regex := .atom (.set negated [.named "space"])

/-- Whether a part of a set is a range that is not empty or a class that there is. -/
def isSound : Glob.SetItem → Bool
  | .range a b => decide (a.toNat ≤ b.toNat)
  | .named name => Glob.classNames.contains name
  | .one _ => true

/-- Read a set behind its opening bracket. Backslashes are plain characters in it. -/
def readSet : Read Regex := do
  let s ← get
  let marks : List Glob.Mark := s.rest.map fun c => (c, c == '\\')
  let (negated, body) :=
    match marks with
    | ('^', _) :: rest => (true, rest)
    | rest => (false, rest)
  match Glob.readItems (2 * body.length + 2) body [] with
  | some (items, after) =>
    let inside := (body.take (body.length - after.length - 1)).map fun m : Glob.Mark => m.1
    let isBare := inside.head? == some ':' && inside.getLast? == some ':' &&
      inside.any (· != ':')
    if s.bareClass && isBare then throw "character class is [[:space:]], not [:space:]"
    else if items.any fun i => !isSound i then throw "Invalid range end"
    else
      set { s with rest := after.map fun m : Glob.Mark => m.1 }
      pure (.atom (.set negated (if negated && s.byLines then .one '\n' :: items else items)))
  | none => throw "Unmatched [, [^, [:, [., or [="

/-- Read the bounds of an interval, whose closing is given. -/
def readBounds (extended : Bool) : Read (Nat × Option Nat) := do
  let s ← get
  let (low, countLow, rest) := takeDigits 10 s.rest 0 0
  let (high, rest) : Option Nat × List Char :=
    match rest with
    | ',' :: more =>
      let (n, count, after) := takeDigits 10 more 0 0
      (if count = 0 then none else some n, after)
    | more => (some low, more)
  let after? : Option (List Char) :=
    match extended, rest with
    | true, '}' :: after => some after
    | false, '\\' :: '}' :: after => some after
    | _, _ => none
  match after? with
  | some after =>
    if countLow = 0 && high.isNone && s.rest.head? != some ',' then
      throw "Invalid content of \\\x7b\\\x7d"
    else if high.any (· < low) || 32767 < low then throw "Invalid content of \\\x7b\\\x7d"
    else
      set { s with rest := after }
      pure (low, high)
  | none => throw "Unmatched \\\x7b"

/-- Whether the bounds of an interval and its closing brace stand in front. -/
def hasBounds (cs : List Char) : Bool :=
  let rest := cs.dropWhile isDigit
  let rest := match rest with
    | ',' :: more => more.dropWhile isDigit
    | rest => rest
  rest.head? == some '\x7d' && cs.head? != some '\x7d'

/-- Read the repetitions behind an expression; the strict reading takes only one of them
where they are not extended. -/
def readTimes (extended : Bool) : Nat → Regex → Read Regex
  | 0, r => pure r
  | n + 1, r => do
    let s ← get
    let again : Bool := match r with
      | .times .. => s.strict && !extended
      | _ => false
    let repeated : Bool := match s.rest with
      | '*' :: _ | '\\' :: '\x7b' :: _ => again
      | _ => false
    if repeated then throw "Invalid preceding regular expression"
    let go (rest : List Char) (low : Nat) (high : Option Nat) : Read Regex := do
      set { s with rest := rest }
      readTimes extended n (.times r low high)
    match extended, s.rest with
    | _, '*' :: rest => go rest 0 none
    | true, '+' :: rest | false, '\\' :: '+' :: rest => go rest 1 none
    | true, '?' :: rest | false, '\\' :: '?' :: rest => go rest 0 (some 1)
    | true, '\x7b' :: rest =>
      if hasBounds rest || s.strict then do
        set { s with rest := rest }
        let (low, high) ← readBounds extended
        readTimes extended n (.times r low high)
      else pure r
    | false, '\\' :: '\x7b' :: rest => do
      set { s with rest := rest }
      let (low, high) ← readBounds extended
      readTimes extended n (.times r low high)
    | _, _ => pure r

mutual

/-- Read alternatives up to the end or a closing parenthesis. -/
def readChoice (extended : Bool) : Nat → Nat → Read Regex
  | 0, _ => throw "Regular expression too big"
  | n + 1, depth => do
    let a ← readBranch extended n depth true .empty
    let s ← get
    match extended, s.rest with
    | true, '|' :: rest | false, '\\' :: '|' :: rest => do
      set { s with rest := rest }
      let b ← readChoice extended n depth
      pure (.either a b)
    | _, _ => pure a

/-- Read what follows one another. -/
def readBranch (extended : Bool) : Nat → Nat → Bool → Regex → Read Regex
  | 0, _, _, _ => throw "Regular expression too big"
  | n + 1, depth, isFirst, acc => do
    let s ← get
    let next (rest : List Char) (r : Regex) : Read Regex := do
      set { s with rest := rest }
      let r ← readTimes extended n r
      readBranch extended n depth false (.sequence acc r)
    let fixed (rest : List Char) (r : Regex) : Read Regex := do
      set { s with rest := rest }
      let isStart := r matches .lineStart | .textStart
      readBranch extended n depth (isStart && isFirst) (.sequence acc r)
    let group (rest : List Char) : Read Regex := do
      let number := s.groups + 1
      set { s with rest := rest, groups := number }
      let r ← readChoice extended n (depth + 1)
      let t ← get
      match extended, t.rest with
      | true, ')' :: after | false, '\\' :: ')' :: after => do
        set { t with rest := after }
        let r ← readTimes extended n (.group number r)
        readBranch extended n depth false (.sequence acc r)
      | _, _ => throw "Unmatched ( or \\("
    match extended, s.rest with
    | _, [] => pure acc
    | true, '|' :: _ | false, '\\' :: '|' :: _ => pure acc
    | true, ')' :: rest =>
      if 0 < depth then pure acc
      else if s.strict then throw "Unmatched ) or \\)"
      else next rest (.atom (.exactly ')'))
    | false, '\\' :: ')' :: _ =>
      if 0 < depth then pure acc else throw "Unmatched ) or \\)"
    | true, '(' :: rest | false, '\\' :: '(' :: rest => group rest
    | _, '[' :: rest => do
      set { s with rest := rest }
      let r ← readSet
      let t ← get
      next t.rest r
    | _, '.' :: rest => next rest (.atom (if s.byLines then .set true [.one '\n'] else .any))
    | true, '^' :: rest => fixed rest (if s.byLines then .lineStart else .textStart)
    | false, '^' :: rest =>
      if isFirst && acc matches .empty then
        fixed rest (if s.byLines then .lineStart else .textStart)
      else next rest (.atom (.exactly '^'))
    | true, '$' :: rest => fixed rest (if s.byLines then .lineEnd else .textEnd)
    | false, '$' :: rest =>
      let isLast := match rest with
        | [] | '\\' :: ')' :: _ | '\\' :: '|' :: _ => true
        | _ => false
      if isLast then fixed rest (if s.byLines then .lineEnd else .textEnd)
      else next rest (.atom (.exactly '$'))
    | true, '*' :: rest | true, '+' :: rest | true, '?' :: rest =>
      if s.strict then throw "Invalid preceding regular expression"
      else if isFirst then fixed rest .empty
      else next rest (.atom (.exactly '*'))
    | true, '\x7b' :: rest =>
      if s.strict then throw "Invalid preceding regular expression"
      else if isFirst && hasBounds rest then
        fixed ((rest.dropWhile (· != '\x7d')).drop 1) .empty
      else next rest (.atom (.exactly '\x7b'))
    | false, '*' :: rest => next rest (.atom (.exactly '*'))
    | _, ['\\'] => throw "Trailing backslash"
    | false, '\\' :: '\x7b' :: rest =>
      if s.strict then throw "Invalid preceding regular expression"
      else next rest (.atom (.exactly '\x7b'))
    | _, '\\' :: c :: rest =>
      match c with
      | 'w' => next rest (wordSet false)
      | 'W' => next rest (wordSet true)
      | 's' => next rest (spaceSet false)
      | 'S' => next rest (spaceSet true)
      | 'b' => fixed rest (.boundary true)
      | 'B' => fixed rest (.boundary false)
      | '<' => fixed rest .wordStart
      | '>' => fixed rest .wordEnd
      | '\x60' => fixed rest .textStart
      | '\x27' => fixed rest .textEnd
      | c =>
        if s.blanks && c == 'n' then next rest (.atom (.exactly '\n'))
        else if s.blanks && c == 't' then next rest (.atom (.exactly '\t'))
        else if between '1' '9' c then
          if c.toNat - 48 ≤ s.groups then next rest (.again (c.toNat - 48))
          else throw "Invalid back reference"
        else next rest (.atom (.exactly c))
    | _, c :: rest => next rest (.atom (.exactly c))

end

/-- Read a regular expression, with how many groups it has. -/
def read (extended : Bool) (text : String) (strict : Bool := false) (bareClass : Bool := false)
    (byLines : Bool := false) (blanks : Bool := false) : Except String (Regex × Nat) := do
  let cs := text.toList
  let (r, s) ← (readChoice extended (4 * cs.length + 10) 0).run
    { rest := cs, strict := strict, bareClass := bareClass, byLines := byLines, blanks := blanks }
  if s.rest.isEmpty then .ok (r, s.groups) else .error "Unmatched ) or \\)"

/-! ## Matching -/

/-- A place in a text: what stands before it and after it, and what the groups matched. -/
structure At where
  before : Option Char
  rest : List Char
  place : Nat
  /-- What was gone past, the last first. -/
  past : List Char := []
  groups : List (Nat × Nat × Nat × List Char) := []

def fold (c : Char) : Char := if isUpper c then Char.ofNat (c.toNat + 32) else c

def holds (ignoreCase : Bool) (a : Glob.Atom) (c : Char) : Bool :=
  if ignoreCase then
    a.holds (fold c) || a.holds c || (isLower c && a.holds (Char.ofNat (c.toNat - 32)))
  else a.holds c

def At.next (x : At) : At :=
  match x.rest with
  | c :: rest => { x with before := some c, rest := rest, place := x.place + 1, past := c :: x.past }
  | [] => x

/-- The place so many characters before. -/
def At.back (x : At) (k : Nat) : At :=
  let past := x.past.drop k
  { x with
    before := past.head?, rest := (x.past.take k).reverse ++ x.rest, place := x.place - k
    past := past }

def At.skip : Nat → At → At
  | 0, x => x
  | n + 1, x => skip n x.next

/-- The places that some characters of a kind lead to, the furthest first. -/
def runOf (hold : Char → Bool) (least : Nat) (most : Option Nat) (x : At) : List At :=
  let rec go : List Char → Nat → At → List At → List At
    | [], n, x, acc => if least ≤ n then x :: acc else acc
    | c :: rest, n, x, acc =>
      let acc := if least ≤ n then x :: acc else acc
      if hold c && most.all (n < ·) then go rest (n + 1) x.next acc else acc
  go x.rest 0 x []

/-- Places without those that were there before. -/
def distinct (xs : List At) : List At :=
  (xs.foldl (fun (acc : List At) x =>
    if acc.any fun y => y.place == x.place && y.groups == x.groups then acc else x :: acc)
    []).reverse

/-- How deep the work on an expression may go. -/
def depth : Nat := 100000

/-- The places that some steps lead to, without any step last: each place stands behind those
that it leads to. -/
def closure (step : At → List At) : Nat → List (Bool × At) → List At → List At → List At
  | 0, _, _, acc => acc.reverse
  | _ + 1, [], _, acc => acc.reverse
  | n + 1, (true, x) :: rest, seen, acc => closure step n rest seen (x :: acc)
  | n + 1, (false, x) :: rest, seen, acc =>
    if seen.any fun y => y.place == x.place && y.groups == x.groups then closure step n rest seen acc
    else
      let further := (step x).map fun y => (false, y)
      closure step n (further ++ (true, x) :: rest) (x :: seen) acc

/-- All the places that an expression can lead to, the preferred ones first. -/
def ends (ignoreCase : Bool) : Nat → Regex → At → List At
  | 0, _, _ => []
  | n + 1, r, x =>
    let wordBefore := x.before.any isWord
    let wordAfter := x.rest.head?.any isWord
    match r with
    | .empty => [x]
    | .atom a =>
      match x.rest with
      | c :: _ => if holds ignoreCase a c then [x.next] else []
      | [] => []
    | .textStart => if x.place = 0 then [x] else []
    | .textEnd => if x.rest.isEmpty then [x] else []
    | .lineStart => if x.place = 0 || x.before == some '\n' then [x] else []
    | .lineEnd => if x.rest.isEmpty || x.rest.head? == some '\n' then [x] else []
    | .wordStart => if !wordBefore && wordAfter then [x] else []
    | .wordEnd => if wordBefore && !wordAfter then [x] else []
    | .boundary b => if (wordBefore != wordAfter) == b then [x] else []
    | .sequence .empty b => ends ignoreCase n b x
    | .sequence a b => (distinct (ends ignoreCase n a x)).flatMap (ends ignoreCase n b)
    | .either a b => ends ignoreCase n a x ++ ends ignoreCase n b x
    | .times (.atom a) least most => runOf (holds ignoreCase a) least most x
    | .times s 0 none =>
      closure (fun y => distinct ((ends ignoreCase n s y).filter fun z => y.place < z.place))
        depth [(false, x)] [] []
    | .times s least most =>
      if most = some 0 then [x]
      else
        let further := distinct ((ends ignoreCase n s x).filter fun y => x.place < y.place)
        let more := further.flatMap
          (ends ignoreCase n (.times s (least - 1) (most.map (· - 1))))
        if least = 0 then more ++ [x]
        else if further.isEmpty && !(ends ignoreCase n s x).isEmpty then more ++ [x]
        else more
    | .group number s =>
      (ends ignoreCase n s x).map fun y =>
        { y with
          groups := (number, x.place, y.place, x.rest.take (y.place - x.place)) ::
            y.groups.filter fun g => g.1 != number }
    | .again number =>
      match x.groups.lookup number with
      | some (_, _, text) =>
        if x.rest.take text.length == text then [x.skip text.length] else []
      | none => []
    | .lazily s least most => (ends ignoreCase n (.times s least most) x).reverse
    | .firm s => (ends ignoreCase n s x).take 1
    | .look false b s => if (ends ignoreCase n s x).isEmpty != b then [x] else []
    | .look true b s =>
      let isThere := (List.range (x.past.length + 1)).any fun k =>
        (ends ignoreCase n s (x.back k)).any fun y => y.place == x.place
      if isThere == b then [x] else []
    | .caseless s => ends true n s x
    | .keep => [{ x with groups := (0, x.place, x.place, []) :: x.groups.filter fun g => g.1 != 0 }]

/-- The longest match that begins at a place. -/
def matchAt? (ignoreCase : Bool) (r : Regex) (x : At) : Option At :=
  (ends ignoreCase depth r x).foldl (fun best y =>
    match best with
    | none => some y
    | some b => if b.place < y.place then some y else best) none

/-- The first match from a place on: where it begins and where it ends. -/
def search? (ignoreCase : Bool) (r : Regex) : List Char → At → Option (At × At)
  | [], x => (matchAt? ignoreCase r x).map fun y => (x, y)
  | _ :: rest, x =>
    match matchAt? ignoreCase r x with
    | some y => some (x, y)
    | none => search? ignoreCase r rest x.next

def start (s : String) : At := { before := none, rest := s.toList, place := 0 }

/-- Whether a text holds a match. -/
def isIn (ignoreCase : Bool) (r : Regex) (s : String) : Bool :=
  (search? ignoreCase r s.toList (start s)).isSome

/-- What a group matched. -/
def At.group? (x : At) (number : Nat) : Option String :=
  (x.groups.lookup number).map fun g => String.ofList g.2.2

end Regex

end StreamSupervisor
