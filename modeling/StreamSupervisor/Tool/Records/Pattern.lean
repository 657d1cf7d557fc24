import StreamSupervisor.Machine.Numeral
import StreamSupervisor.Text.Regex

/-! # Patterns in scripts for records

The patterns of scripts are extended regular expressions of a kind of their own. Braces and
references mean nothing in them, the marks for the begin and the end of a text hold wherever they
stand, a backslash is read inside of sets too, and nothing may be empty but the whole.
-/

namespace StreamSupervisor.Tool.Records

open Machine

/-- What stands behind a backslash in a text, if it stands for something. -/
def escape? : List Char → Option (Char × List Char)
  | [] => none
  | c :: rest =>
    match c with
    | 'n' => some ('\n', rest)
    | 't' => some ('\t', rest)
    | 'r' => some ('\r', rest)
    | 'a' => some ('\x07', rest)
    | 'b' => some ('\x08', rest)
    | 'f' => some ('\x0c', rest)
    | 'v' => some ('\x0b', rest)
    | '\\' => some ('\\', rest)
    | '"' => some ('"', rest)
    | c =>
      if between '0' '7' c then
        let ds := ((c :: rest).take 3).takeWhile (between '0' '7')
        some (Char.ofNat ((takeDigits 8 ds 0 0).1 % 256), (c :: rest).drop ds.length)
      else if c == 'x' then
        let ds := (rest.take 2).takeWhile fun d => (digitValue? d).any (· < 16)
        if ds.isEmpty then none
        else some (Char.ofNat (takeDigits 16 ds 0 0).1, rest.drop ds.length)
      else none

namespace Pattern

abbrev Read := StateT (List Char) (Except String)

/-- A character of a set, and whether it was written with a backslash. -/
def setMark : List Char → Option ((Char × Bool) × List Char)
  | [] => none
  | '\\' :: rest =>
    match escape? rest, rest with
    | some (c, rest), _ => some ((c, true), rest)
    | none, c :: rest => some ((c, true), rest)
    | none, [] => some (('\\', true), [])
  | c :: rest => some ((c, false), rest)

/-- Read the items of a set up to its closing bracket, which may be the first of them. -/
def readItems : Nat → Bool → List Char → List Glob.SetItem →
    Except String (List Glob.SetItem × List Char)
  | 0, _, _, _ => throw "bad class"
  | n + 1, isFirst, cs, acc => do
    match cs with
    | [] => throw "bad class -- [], [^] or ["
    | '[' :: ':' :: rest =>
      let name := String.ofList (rest.takeWhile isLetter)
      match rest.drop name.length with
      | ':' :: ']' :: after =>
        if Glob.classNames.contains name then readItems n false after (.named name :: acc)
        else throw "bad class -- [], [^] or ["
      | _ => readItems n false (':' :: rest) (.one '[' :: acc)
    | _ =>
      match setMark cs with
      | none => throw "bad class -- [], [^] or ["
      | some ((']', false), rest) =>
        if isFirst then readItems n false rest (.one ']' :: acc) else pure (acc.reverse, rest)
      | some ((low, _), rest) =>
        match rest with
        | '-' :: more =>
          match setMark more with
          | none | some ((']', false), _) => readItems n false rest (.one low :: acc)
          | some ((high, _), after) =>
            if high.toNat < low.toNat then readItems n false rest (.one low :: acc)
            else readItems n false after (.range low high :: acc)
        | _ => readItems n false rest (.one low :: acc)

def readSet : Read Regex := do
  let cs ← get
  let (negated, body) : Bool × List Char := match cs with
    | '^' :: rest => (true, rest)
    | rest => (false, rest)
  let (items, rest) ← readItems (2 * body.length + 2) true body []
  set rest
  pure (.atom (.set negated items))

/-- The repetitions behind something. -/
def readTimes (isFixed : Bool) : Nat → Regex → Read Regex
  | 0, r => pure r
  | n + 1, r => do
    let go (rest : List Char) (least : Nat) (most : Option Nat) : Read Regex := do
      if isFixed then throw "syntax error ^* or ^+"
      set rest
      readTimes isFixed n (.times r least most)
    match ← get with
    | '*' :: rest => go rest 0 none
    | '+' :: rest => go rest 1 none
    | '?' :: rest => go rest 0 (some 1)
    | _ => pure r

mutual

/-- Read alternatives up to the end or a closing parenthesis. -/
def readChoice : Nat → Nat → Read Regex
  | 0, _ => throw "too big"
  | n + 1, depth => do
    let a ← readBranch n depth none
    match ← get with
    | '|' :: rest => do
      set rest
      let b ← readChoice n depth
      pure (.either a b)
    | _ => pure a

/-- Read what follows one another; there has to be something. -/
def readBranch : Nat → Nat → Option Regex → Read Regex
  | 0, _, _ => throw "too big"
  | n + 1, depth, acc => do
    let cs ← get
    let ending : Read Regex := match acc with
      | some r => pure r
      | none => throw "missing operand"
    let next (rest : List Char) (r : Regex) (isFixed : Bool) : Read Regex := do
      set rest
      let r ← readTimes isFixed n r
      readBranch n depth (some (match acc with
        | some a => .sequence a r
        | none => r))
    match cs with
    | [] | '|' :: _ => ending
    | ')' :: rest => if 0 < depth then ending else next rest (.atom (.exactly ')')) false
    | '(' :: rest => do
      set rest
      let r ← readChoice n (depth + 1)
      match ← get with
      | ')' :: after => next after r false
      | _ => throw "missing ')'"
    | '*' :: _ | '+' :: _ | '?' :: _ => throw "missing operand"
    | '^' :: rest => next rest .textStart true
    | '$' :: rest => next rest .textEnd false
    | '.' :: rest => next rest (.atom .any) false
    | '[' :: rest => do
      set rest
      let r ← readSet
      next (← get) r false
    | '\\' :: rest =>
      match escape? rest, rest with
      | some (c, after), _ => next after (.atom (.exactly c)) false
      | none, c :: after => next after (.atom (.exactly c)) false
      | none, [] => next [] (.atom (.exactly '\\')) false
    | c :: rest => next rest (.atom (.exactly c)) false

end

end Pattern

/-- Read a pattern; the empty one matches everywhere. -/
def readPattern (text : String) : Except String Regex := do
  let cs := text.toList
  if cs.isEmpty then pure .empty
  else
    let (r, _) ← (Pattern.readChoice (4 * cs.length + 10) 0).run cs
    pure r

end StreamSupervisor.Tool.Records
