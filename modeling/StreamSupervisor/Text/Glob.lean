import StreamSupervisor.Machine.Bytes

/-! # Patterns with stars

Patterns of literal characters, sets of characters, and stars for any text. A text is
matched by keeping all the ends of the pattern that can still follow, so a match takes time
in proportion to both.
-/

namespace StreamSupervisor.Glob

open Machine

/-- What a set of characters consists of. -/
inductive SetItem where
  | one (c : Char)
  | range (low high : Char)
  | named (name : String)

inductive Atom where
  | exactly (c : Char)
  | any
  | star
  | set (negated : Bool) (items : List SetItem)
  /-- Alternatives, with the sign that tells how often one of them may match: once, at most
  once, any number of times, at least once, or never. -/
  | group (sign : Char) (alternatives : List (List Atom))

abbrev Pattern := List Atom

/-- The classes of characters that have names. -/
def isInClass (name : String) (c : Char) : Bool :=
  match name with
  | "alpha" => isLetter c
  | "digit" => isDigit c
  | "alnum" => isLetter c || isDigit c
  | "upper" => isUpper c
  | "lower" => isLower c
  | "space" => isSpace c
  | "blank" => c == ' ' || c == '\t'
  | "punct" => between '!' '~' c && !(isLetter c || isDigit c)
  | "print" => between ' ' '~' c
  | "graph" => between '!' '~' c
  | "cntrl" => decide (c.toNat < 32) || c.toNat == 127
  | "xdigit" => isDigit c || between 'a' 'f' c || between 'A' 'F' c
  | _ => false

def SetItem.holds (c : Char) : SetItem → Bool
  | .one d => c == d
  | .range low high => between low high c
  | .named name => isInClass name c

def Atom.holds (c : Char) : Atom → Bool
  | .exactly d => c == d
  | .any => true
  | .star => false
  | .set negated items => (items.any (·.holds c)) != negated
  | .group _ _ => false

/-- A character of a pattern's text, and whether it was quoted. -/
abbrev Mark := Char × Bool

def classNames : List String :=
  ["alpha", "digit", "alnum", "upper", "lower", "space", "blank", "punct", "print", "graph",
    "cntrl", "xdigit"]

/-- Read the items of a set up to its closing bracket. -/
def readItems : Nat → List Mark → List SetItem → Option (List SetItem × List Mark)
  | 0, _, _ => none
  | n + 1, marks, items =>
    match marks with
    | [] => none
    | (']', false) :: rest =>
      if items.isEmpty then ranged n ']' rest items else some (items.reverse, rest)
    | ('[', false) :: (':', false) :: rest =>
      let name := (rest.takeWhile fun m => m.1 != ':').map (·.1)
      match rest.drop name.length with
      | (':', _) :: (']', _) :: after =>
        readItems n after (.named (String.ofList name) :: items)
      | _ => ranged n '[' ((':', false) :: rest) items
    | ('[', false) :: ('.', false) :: (c, _) :: ('.', _) :: (']', _) :: rest =>
      ranged n c rest items
    | ('[', false) :: ('=', false) :: (c, _) :: ('=', _) :: (']', _) :: rest =>
      readItems n rest (.one c :: items)
    | ('\\', false) :: (c, _) :: rest => ranged n c rest items
    | (c, _) :: rest => ranged n c rest items
where
  /-- A character that may begin a range. -/
  ranged (n : Nat) (low : Char) (rest : List Mark) (items : List SetItem) :
      Option (List SetItem × List Mark) :=
    match rest with
    | ('-', false) :: (']', false) :: _ => readItems n rest (.one low :: items)
    | ('-', false) :: ('\\', false) :: (high, _) :: after =>
      readItems n after (.range low high :: items)
    | ('-', false) :: (high, _) :: after => readItems n after (.range low high :: items)
    | _ => readItems n rest (.one low :: items)

/-- Read a set behind its opening bracket; a caret may negate it as well. -/
def readSet (caret : Bool) (marks : List Mark) : Option (Atom × List Mark) :=
  let (negated, rest) :=
    match marks with
    | ('!', false) :: rest => (true, rest)
    | ('^', false) :: rest => if caret then (true, rest) else (false, marks)
    | rest => (false, rest)
  (readItems (2 * rest.length + 2) rest []).map fun r => (.set negated r.1, r.2)

/-- How patterns are read. -/
structure Style where
  /-- Whether a caret negates a set. -/
  caret : Bool := true
  /-- Whether there are groups of alternatives. -/
  groups : Bool := false

/-- The alternatives of a group up to its closing parenthesis, and what follows it. -/
def cutGroup : Nat → List Mark → List Mark → List (List Mark) →
    Option (List (List Mark) × List Mark)
  | _, [], _, _ => none
  | depth, m :: rest, current, done =>
    if m == ('(', false) then cutGroup (depth + 1) rest (m :: current) done
    else if m == (')', false) then
      match depth with
      | 0 => some ((current.reverse :: done).reverse, rest)
      | d + 1 => cutGroup d rest (m :: current) done
    else if m == ('|', false) && depth = 0 then cutGroup 0 rest [] (current.reverse :: done)
    else cutGroup depth rest (m :: current) done

/-- Read a pattern. A quoted character stands for itself, as does one behind a backslash. -/
def read (style : Style) (marks : List Mark) : Pattern := go (marks.length + 1) marks
where
  go : Nat → List Mark → Pattern
    | 0, _ => []
    | n + 1, marks =>
      let plain (marks : List Mark) : Pattern :=
        match marks with
        | [] => []
        | ('*', false) :: rest => .star :: go n rest
        | ('?', false) :: rest => .any :: go n rest
        | ('\\', false) :: (c, _) :: rest => .exactly c :: go n rest
        | ('[', false) :: rest =>
          match readSet style.caret rest with
          | some (atom, after) => atom :: go n after
          | none => .exactly '[' :: go n rest
        | (c, _) :: rest => .exactly c :: go n rest
      match marks with
      | (sign, false) :: ('(', false) :: rest =>
        if style.groups && "?*+@!".toList.contains sign then
          match cutGroup 0 rest [] [] with
          | some (alternatives, after) => .group sign (alternatives.map (go n)) :: go n after
          | none => plain marks
        else plain marks
      | marks => plain marks

def ofText (s : String) : Pattern := read {} (s.toList.map fun c => (c, false))

/-- Whether a text could stand for others than itself. -/
def isMagic (p : Pattern) : Bool :=
  p.any fun
    | .exactly _ => false
    | _ => true

/-- The ends of a pattern that can follow without any character more. -/
def closure : Pattern → List Pattern
  | .star :: rest => (.star :: rest) :: closure rest
  | p => [p]

/-- Add ends of a pattern to others, of which no two have the same length. -/
def merge (ps qs : List Pattern) : List Pattern :=
  qs.foldl (fun ps q => if ps.any (·.length == q.length) then ps else q :: ps) ps

/-- The ends that can follow after one character more. -/
def step (states : List Pattern) (c : Char) : List Pattern :=
  states.foldl (fun acc p =>
    match p with
    | [] => acc
    | .star :: rest => merge acc [.star :: rest] |> fun acc => merge acc (closure rest)
    | atom :: rest => if atom.holds c then merge acc (closure rest) else acc) []

def accepts (states : List Pattern) : Bool := states.any (·.isEmpty)

/-- Whether a pattern consists of characters that stand for themselves. -/
def literal? (p : Pattern) : Option (List Char) :=
  p.mapM fun
    | .exactly c => some c
    | _ => none

def hasGroup (p : Pattern) : Bool :=
  p.any fun
    | .group .. => true
    | _ => false

/-! ## Groups -/

/-- Add places to others, each but once. -/
def joinPlaces (a b : List Nat) : List Nat := b.foldl (fun l x => if l.contains x then l else x :: l) a

mutual

/-- The places where a match of a pattern can end that begins at one of some places. -/
def ends (text : Array Char) : Nat → Pattern → List Nat → List Nat
  | 0, _, _ => []
  | _ + 1, [], places => places
  | n + 1, atom :: rest, places =>
    if places.isEmpty then []
    else
      let next :=
        match atom with
        | .star =>
          let least := places.foldl Nat.min text.size
          (List.range (text.size + 1 - least)).map (· + least)
        | .group sign alternatives =>
          places.foldl (fun acc i => joinPlaces acc (groupEnds text n sign alternatives i)) []
        | atom => places.filterMap fun i =>
            match text[i]? with
            | some c => if atom.holds c then some (i + 1) else none
            | none => none
      ends text n rest next

/-- The places where a match of a group can end that begins at a place. -/
def groupEnds (text : Array Char) : Nat → Char → List Pattern → Nat → List Nat
  | 0, _, _, _ => []
  | n + 1, sign, alternatives, i =>
    let once := alternatives.foldl (fun acc p => joinPlaces acc (ends text n p [i])) []
    match sign with
    | '@' => once
    | '?' => joinPlaces [i] once
    | '!' => (List.range (text.size + 1 - i)).map (· + i) |>.filter fun j => !once.contains j
    | sign =>
      let further := once.filter (i < ·)
      let more := further.foldl (fun acc j => joinPlaces acc (groupEnds text n '*' alternatives j))
        once
      if sign == '*' then joinPlaces [i] more else more

end

/-- The places where a match can end that begins at the front of a text. -/
def frontEnds (p : Pattern) (s : List Char) : List Nat :=
  let text := s.toArray
  ends text (100 * (text.size + 10)) p [0]

/-! ## Matches -/

/-- Whether a pattern matches a whole text. -/
def isMatch (p : Pattern) (s : List Char) : Bool :=
  match literal? p with
  | some cs => cs == s
  | none => if hasGroup p then (frontEnds p s).contains s.length else go (closure p) s
where
  go (states : List Pattern) : List Char → Bool
    | [] => accepts states
    | c :: rest => if states.isEmpty then false else go (step states c) rest

/-- The shortest or the longest of some lengths. -/
def choose? (longest : Bool) (lengths : List Nat) : Option Nat :=
  match lengths with
  | [] => none
  | n :: rest => some (rest.foldl (if longest then Nat.max else Nat.min) n)

/-- How many characters the shortest or longest match at the front of a text has. -/
def frontMatch? (p : Pattern) (longest : Bool) (s : List Char) : Option Nat :=
  if hasGroup p then choose? longest (frontEnds p s) else go (closure p) s 0 none
where
  go (states : List Pattern) (s : List Char) (n : Nat) (best : Option Nat) : Option Nat :=
    let best := if accepts states then some n else best
    if best.isSome && !longest then best
    else
      match s with
      | [] => best
      | c :: rest => if states.isEmpty then best else go (step states c) rest (n + 1) best

/-- How many characters the shortest or longest match at the end of a text has. -/
def backMatch? (p : Pattern) (longest : Bool) (s : List Char) : Option Nat :=
  if hasGroup p then
    choose? longest ((List.range (s.length + 1)).filter fun n => isMatch p (s.drop (s.length - n)))
  else frontMatch? p.reverse longest s.reverse

/-- The text without a match at its front. -/
def trimFront (p : Pattern) (longest : Bool) (s : String) : String :=
  match frontMatch? p longest s.toList with
  | some n => dropChars n s
  | none => s

/-- The text without a match at its end. -/
def trimBack (p : Pattern) (longest : Bool) (s : String) : String :=
  let cs := s.toList
  match backMatch? p longest cs with
  | some n => String.ofList (cs.take (cs.length - n))
  | none => s

end StreamSupervisor.Glob
