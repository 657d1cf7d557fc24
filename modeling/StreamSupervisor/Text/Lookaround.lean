import StreamSupervisor.Text.Regex

/-! # Expressions that look around

Regular expressions of the kind that prefers one match to another as it goes along: repetitions
may be lazy or firm, a part may be asked for ahead or behind without being matched, and the match
may be made to begin later.
-/

namespace StreamSupervisor.Regex.Lookaround

open Machine

structure Reading where
  rest : List Char
  groups : Nat := 0
  names : List (String × Nat) := []
  caseless : Bool := false

abbrev Read := StateT Reading (Except String)

def digit : List Glob.SetItem := [.range '0' '9']

def blankItems : List Glob.SetItem := [.one ' ', .one '\t']

/-- The set that a letter behind a backslash stands for, and whether it is negated. -/
def classOf? : Char → Option (Bool × List Glob.SetItem)
  | 'd' => some (false, digit)
  | 'D' => some (true, digit)
  | 'w' => some (false, [.named "alnum", .one '_'])
  | 'W' => some (true, [.named "alnum", .one '_'])
  | 's' => some (false, [.named "space"])
  | 'S' => some (true, [.named "space"])
  | 'h' => some (false, blankItems)
  | 'H' => some (true, blankItems)
  | 'v' => some (false, [.range '\n' '\r'])
  | 'N' => some (true, [.one '\n'])
  | 'X' => some (true, [])
  | _ => none

/-- The character that an escape stands for. -/
def escaped : List Char → Option (Char × List Char)
  | [] => none
  | c :: rest =>
    match c with
    | 'n' => some ('\n', rest)
    | 't' => some ('\t', rest)
    | 'r' => some ('\r', rest)
    | 'f' => some ('\x0c', rest)
    | 'a' => some ('\x07', rest)
    | 'e' => some ('\x1b', rest)
    | 'x' =>
      match rest with
      | '\x7b' :: more =>
        let (v, _, after) := takeDigits 16 more 0 0
        if after.head? == some '\x7d' then some (Char.ofNat v, after.drop 1) else none
      | _ =>
        let ds := (rest.take 2).takeWhile fun d => (digitValue? d).any (· < 16)
        some (Char.ofNat (takeDigits 16 ds 0 0).1, rest.drop ds.length)
    | '0' =>
      let ds := ((c :: rest).take 3).takeWhile (between '0' '7')
      some (Char.ofNat ((takeDigits 8 ds 0 0).1 % 256), (c :: rest).drop ds.length)
    | c => if isLetter c || isDigit c then none else some (c, rest)

/-- All characters that do not belong to some items, as ranges. -/
def complement (items : List Glob.SetItem) : List Glob.SetItem :=
  ((List.range 256).map Char.ofNat).filterMap fun c =>
    if items.any (·.holds c) then none else some (.one c)

/-- Read the items of a set up to its closing bracket. -/
def readItems : Nat → Bool → List Char → List Glob.SetItem →
    Except String (List Glob.SetItem × List Char)
  | 0, _, _, _ => throw "too long"
  | n + 1, isFirst, cs, acc => do
    let single (cs : List Char) : Option (Char × List Char) := match cs with
      | '\\' :: 'b' :: rest => some ('\x08', rest)
      | '\\' :: rest => escaped rest
      | c :: rest => some (c, rest)
      | [] => none
    match cs with
    | [] => throw "missing terminating ] for character class"
    | ']' :: rest =>
      if isFirst then readItems n false rest (.one ']' :: acc) else pure (acc.reverse, rest)
    | '[' :: ':' :: rest =>
      let name := String.ofList (rest.takeWhile isLetter)
      match rest.drop name.length with
      | ':' :: ']' :: after =>
        if Glob.classNames.contains name then readItems n false after (.named name :: acc)
        else throw "unknown POSIX class name"
      | _ => readItems n false (':' :: rest) (.one '[' :: acc)
    | _ =>
      let fromClass := match cs with
        | '\\' :: c :: rest => (classOf? c).map fun k => (k, rest)
        | _ => none
      match fromClass with
      | some ((negated, items), rest) =>
        readItems n false rest ((if negated then complement items else items).reverse ++ acc)
      | none =>
        match single cs with
        | none => throw "escape sequence is invalid in character class"
        | some (low, rest) =>
          match rest with
          | '-' :: more =>
            let high? := if more.head? == some ']' then none else single more
            match high? with
            | none => readItems n false rest (.one low :: acc)
            | some (high, after) =>
              if high.toNat < low.toNat then throw "range out of order in character class"
              else readItems n false after (.range low high :: acc)
          | _ => readItems n false rest (.one low :: acc)

/-- The bounds of an interval, if that is what stands there. -/
def bounds? (cs : List Char) : Option (Nat × Option Nat × List Char) :=
  let (low, count, rest) := takeDigits 10 cs 0 0
  if count = 0 then none
  else
    match rest with
    | '\x7d' :: after => some (low, some low, after)
    | ',' :: '\x7d' :: after => some (low, none, after)
    | ',' :: more =>
      let (high, count, rest) := takeDigits 10 more 0 0
      match rest with
      | '\x7d' :: after => if count = 0 then none else some (low, some high, after)
      | _ => none
    | _ => none

/-- The repetitions behind something. -/
def readTimes : Nat → Regex → Read Regex
  | 0, r => pure r
  | n + 1, r => do
    let s ← get
    let go (rest : List Char) (least : Nat) (most : Option Nat) : Read Regex := do
      if most.any (· < least) then throw "numbers out of order in a quantifier"
      match rest with
      | '?' :: rest => do
        set { s with rest := rest }
        readTimes n (.lazily r least most)
      | '+' :: rest => do
        set { s with rest := rest }
        readTimes n (.firm (.times r least most))
      | _ => do
        set { s with rest := rest }
        readTimes n (.times r least most)
    match s.rest with
    | '*' :: rest => go rest 0 none
    | '+' :: rest => go rest 1 none
    | '?' :: rest => go rest 0 (some 1)
    | '\x7b' :: rest =>
      match bounds? rest with
      | some (low, high, after) => go after low high
      | none => pure r
    | _ => pure r

/-- What stands behind the opening of a group: how it is taken, and what follows. -/
inductive Opening where
  | group (name : Option String)
  | plain
  | firm
  | look (behind holds : Bool)
  /-- The choice whether case counts, for the group or for all that follows. -/
  | caseless (on wide : Bool)
  | comment

def opening? (cs : List Char) : Option (Opening × List Char) :=
  let named (close : Char) (rest : List Char) : Option (Opening × List Char) :=
    let name := rest.takeWhile isNameChar
    match rest.drop name.length with
    | c :: after => if c == close && !name.isEmpty then some (.group (some (String.ofList name)), after)
      else none
    | [] => none
  match cs with
  | '?' :: rest =>
    match rest with
    | ':' :: rest => some (.plain, rest)
    | '>' :: rest => some (.firm, rest)
    | '=' :: rest => some (.look false true, rest)
    | '!' :: rest => some (.look false false, rest)
    | '<' :: '=' :: rest => some (.look true true, rest)
    | '<' :: '!' :: rest => some (.look true false, rest)
    | 'P' :: '<' :: rest | '<' :: rest => named '>' rest
    | '\x27' :: rest => named '\x27' rest
    | '#' :: rest => some (.comment, rest)
    | 'i' :: ')' :: rest => some (.caseless true true, rest)
    | '-' :: 'i' :: ')' :: rest => some (.caseless false true, rest)
    | 'i' :: ':' :: rest => some (.caseless true false, rest)
    | '-' :: 'i' :: ':' :: rest => some (.caseless false false, rest)
    | _ => none
  | rest => some (.group none, rest)

mutual

/-- Read alternatives up to the end or a closing parenthesis. -/
def readChoice : Nat → Nat → Read Regex
  | 0, _ => throw "too long"
  | n + 1, depth => do
    let a ← readBranch n depth .empty
    let s ← get
    match s.rest with
    | '|' :: rest => do
      set { s with rest := rest }
      let b ← readChoice n depth
      pure (.either a b)
    | _ => pure a

/-- Read what follows one another. -/
def readBranch : Nat → Nat → Regex → Read Regex
  | 0, _, _ => throw "too long"
  | n + 1, depth, acc => do
    let s ← get
    let next (r : Regex) (rest : List Char) : Read Regex := do
      modify fun t => { t with rest := rest }
      let r ← readTimes n (if s.caseless then .caseless r else r)
      readBranch n depth (.sequence acc r)
    let inside : Read Regex := do
      let r ← readChoice n (depth + 1)
      let t ← get
      match t.rest with
      | ')' :: after => do
        set { t with rest := after, caseless := s.caseless }
        pure r
      | _ => throw "missing closing parenthesis"
    let finish (r : Regex) : Read Regex := do
      let r ← readTimes n r
      readBranch n depth (.sequence acc r)
    match s.rest with
    | [] | '|' :: _ => pure acc
    | ')' :: _ => if 0 < depth then pure acc else throw "unmatched closing parenthesis"
    | '(' :: rest =>
      match opening? rest with
      | none => throw "unrecognized character after (? or (?-"
      | some (how, rest) => do
        set { s with rest := rest }
        match how with
        | .group name => do
          let number := s.groups + 1
          let names := match name with
            | some name => (name, number) :: s.names
            | none => s.names
          set { s with rest := rest, groups := number, names := names }
          let r ← inside
          finish (.group number r)
        | .plain => do
          let r ← inside
          finish r
        | .firm => do
          let r ← inside
          finish (.firm r)
        | .look behind holds => do
          let r ← inside
          finish (.look behind holds r)
        | .caseless on true => do
          set { s with rest := rest, caseless := on }
          readBranch n depth acc
        | .caseless on false => do
          set { s with rest := rest, caseless := on }
          let r ← inside
          finish r
        | .comment => do
          let after := rest.dropWhile (· != ')')
          if after.isEmpty then throw "missing ) after (?# comment"
          set { s with rest := after.drop 1 }
          readBranch n depth acc
    | '[' :: rest => do
      let (negated, body) : Bool × List Char := match rest with
        | '^' :: rest => (true, rest)
        | rest => (false, rest)
      let (items, after) ← readItems (2 * body.length + 2) true body []
      next (.atom (.set negated items)) after
    | '.' :: rest => next (.atom (.set true [.one '\n'])) rest
    | '^' :: rest => next .textStart rest
    | '$' :: rest => next .textEnd rest
    | '*' :: _ | '+' :: _ | '?' :: _ => throw "quantifier does not follow a repeatable item"
    | '\\' :: 'Q' :: rest =>
      let rec quoted : List Char → List Char → List Char × List Char
        | '\\' :: 'E' :: rest, q => (q.reverse, rest)
        | c :: rest, q => quoted rest (c :: q)
        | [], q => (q.reverse, [])
      let (q, after) := quoted rest []
      next (q.foldl (fun r c => .sequence r (.atom (.exactly c))) .empty) after
    | '\\' :: c :: rest =>
      match c with
      | 'K' => next .keep rest
      | 'b' => next (.boundary true) rest
      | 'B' => next (.boundary false) rest
      | 'A' | 'G' => next .textStart rest
      | 'z' | 'Z' => next .textEnd rest
      | 'E' => do
        set { s with rest := rest }
        readBranch n depth acc
      | 'R' => next (.atom (.set false [.range '\n' '\r'])) rest
      | 'k' =>
        let body := rest.drop 1
        let name := body.takeWhile isNameChar
        match s.names.lookup (String.ofList name), body.drop name.length with
        | some number, _ :: after => next (.again number) after
        | _, _ => throw "reference to non-existent subpattern"
      | c =>
        match classOf? c with
        | some (negated, items) => next (.atom (.set negated items)) rest
        | none =>
          if between '1' '9' c then
            let (v, _, after) := takeDigits 10 (c :: rest) 0 0
            next (.again v) after
          else
            match escaped (c :: rest) with
            | some (d, after) => next (.atom (.exactly d)) after
            | none => throw "unrecognized character follows \\"
    | ['\\'] => throw "\\ at end of pattern"
    | c :: rest => next (.atom (.exactly c)) rest

end

/-- Read an expression of this kind. -/
def read (text : String) : Except String Regex := do
  let cs := text.toList
  let (r, _) ← (readChoice (6 * cs.length + 10) 0).run { rest := cs }
  pure r

/-- The preferred match that begins at a place. -/
def matchAt? (ignoreCase : Bool) (r : Regex) (x : Regex.At) : Option Regex.At :=
  (Regex.ends ignoreCase Regex.depth r x).head?

end StreamSupervisor.Regex.Lookaround
