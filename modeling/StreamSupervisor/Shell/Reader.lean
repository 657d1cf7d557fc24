import StreamSupervisor.Machine.Numeral
import StreamSupervisor.Shell.Lexicon

/-! # Reading commands

Commands are read one complete line at a time, so that what stands further down in a text
matters only once it is reached. Words are read into parts, commands into trees; the lines
promised by a redirection are fetched at the end of its line.
-/

namespace StreamSupervisor.Shell

open Machine

/-- Where a word's parts stand, which decides what is special in them. -/
inductive Context where
  | base
  | quotes
  /-- Lines that are expanded but otherwise as quoted. -/
  | lines
  /-- Between braces, behind the operator of a parameter. -/
  | brace (quoted : Bool)
  | arithmetic (depth : Nat)
  /-- Up to one of some characters, which is left. -/
  | upTo (ends : List Char) (quoted : Bool)
  | regex (depth : Nat)
  /-- Between brackets, up to the one that closes. -/
  | index (depth : Nat)
  /-- Between the parentheses of a group of patterns. -/
  | group
deriving DecidableEq

namespace Context

/-- Whether single and double quotes quote. -/
def allowsQuotes : Context → Bool
  | base | brace false | upTo _ false | regex _ | index _ | group => true
  | _ => false

/-- The characters that do not simply stand for themselves. -/
def specials : Context → List Char
  | base => "\\\x27\"$\x60|&;<>() \t\n".toList
  | quotes => "\\\"$\x60".toList
  | lines => "\\$\x60".toList
  | brace true => "\\\"$\x60\x7d".toList
  | brace false => "\\\x27\"$\x60\x7d".toList
  | arithmetic _ => "\\\"$\x60()".toList
  | upTo ends quoted =>
    (if quoted then "\\\"$\x60".toList else "\\\x27\"$\x60".toList) ++ ends
  | regex _ => "\\\x27\"$\x60() \t\n".toList
  | group => "\\\x27\"$\x60()".toList
  | index _ => "\\\x27\"$\x60[]".toList

end Context

/-- The text without blanks, joined lines and a comment at its front. -/
def dropBlank (inComment : Bool) : List Char → List Char
  | [] => []
  | '\n' :: rest => '\n' :: rest
  | '\\' :: '\n' :: rest => if inComment then '\n' :: rest else dropBlank false rest
  | c :: rest =>
    if inComment then dropBlank true rest
    else if c == ' ' || c == '\t' then dropBlank false rest
    else if c == '#' then dropBlank true rest
    else c :: rest

/-- A text with no line joined to the next among the first characters of its first line. -/
def smooth : Nat → List Char → List Char
  | 0, cs => cs
  | _ + 1, '\n' :: rest => '\n' :: rest
  | n + 1, '\\' :: '\n' :: rest => smooth (n + 1) rest
  | n + 1, c :: rest => c :: smooth n rest
  | _ + 1, [] => []

/-- The characters of a kind at the front of a text, joined lines passed over, and what
follows them. -/
def takeJoined (isPart : Char → Bool) : List Char → List Char × List Char
  | '\\' :: '\n' :: rest => takeJoined isPart rest
  | c :: rest =>
    if isPart c then
      let r := takeJoined isPart rest
      (c :: r.1, r.2)
    else ([], c :: rest)
  | [] => ([], [])

/-- The part of a text in front of what is left of it. -/
def textBetween (start rest : List Char) : String :=
  String.ofList (start.take (start.length - rest.length))

/-- An operator at the front of a text. -/
def operator? (rich : Bool) : List Char → Option (String × List Char)
  | '\n' :: rest => some ("\n", rest)
  | '&' :: '&' :: rest => some ("&&", rest)
  | '&' :: rest =>
    if rich && rest.head? == some '>' then none else some ("&", rest)
  | '|' :: '|' :: rest => some ("||", rest)
  | '|' :: '&' :: rest => if rich then some ("|&", rest) else some ("|", '&' :: rest)
  | '|' :: rest => some ("|", rest)
  | ';' :: ';' :: '&' :: rest => if rich then some (";;&", rest) else some (";;", '&' :: rest)
  | ';' :: ';' :: rest => some (";;", rest)
  | ';' :: '&' :: rest => if rich then some (";&", rest) else some (";", '&' :: rest)
  | ';' :: rest => some (";", rest)
  | '(' :: rest => some ("(", rest)
  | ')' :: rest => some (")", rest)
  | _ => none

/-- The operator of a redirection at the front of a text. -/
def redirection? (rich : Bool) : List Char → Option (String × List Char)
  | '>' :: '>' :: rest => some (">>", rest)
  | '>' :: '|' :: rest => some (">|", rest)
  | '>' :: '&' :: rest => some (">&", rest)
  | '>' :: '(' :: rest => if rich then none else some (">", '(' :: rest)
  | '>' :: rest => some (">", rest)
  | '<' :: '<' :: '-' :: rest => some ("<<-", rest)
  | '<' :: '<' :: '<' :: rest => if rich then some ("<<<", rest) else some ("<<", '<' :: rest)
  | '<' :: '<' :: rest => some ("<<", rest)
  | '<' :: '&' :: rest => some ("<&", rest)
  | '<' :: '>' :: rest => some ("<>", rest)
  | '<' :: '(' :: rest => if rich then none else some ("<", '(' :: rest)
  | '<' :: rest => some ("<", rest)
  | '&' :: '>' :: '>' :: rest => if rich then some ("&>>", rest) else none
  | '&' :: '>' :: rest => if rich then some ("&>", rest) else none
  | _ => none

/-- A redirection with the number before it. -/
def numbered? (rich : Bool) (cs : List Char) : Option (Handle × String × List Char) :=
  let ds := cs.takeWhile isDigit
  let ds := if rich then ds else ds.take 1
  let rest := cs.drop ds.length
  let isSign (c : Option Char) : Bool := c == some '<' || c == some '>'
  if ds.isEmpty then
    match rich, rest with
    | true, '\x7b' :: more =>
      let name := more.takeWhile isNameChar
      match more.drop name.length with
      | '\x7d' :: c :: after =>
        if isSign c && isName (String.ofList name) then
          (redirection? rich (c :: after)).map fun r => (.kept (String.ofList name), r.1, r.2)
        else none
      | _ => none
    | _, _ => (redirection? rich rest).map fun r => (.usual, r.1, r.2)
  else if isSign rest.head? then
    (redirection? rich rest).map fun r =>
      (.number ((String.ofList ds).toNat?.getD 0), r.1, r.2)
  else none

/-- The lines up to a mark, what follows them, and whether the mark was there. Where lines are
joined, a mark counts only on a line of its own. -/
def takeLines (mark : List Char) (stripTabs joins isJoined : Bool) :
    Nat → List Char → List (List Char) → List Char × List Char × Bool
  | 0, rest, acc => (acc.reverse.flatten, rest, false)
  | n + 1, rest, acc =>
    if rest.isEmpty then (acc.reverse.flatten, [], false)
    else
      let line := rest.takeWhile (· != '\n')
      let after := rest.drop (line.length + 1)
      let ended := line.length < rest.length
      let line := if stripTabs && !isJoined then line.dropWhile (· == '\t') else line
      if line == mark && !isJoined then (acc.reverse.flatten, after, true)
      else
        takeLines mark stripTabs joins (joins && endsJoined line.reverse) n after
          ((if ended then line ++ ['\n'] else line) :: acc)
where
  /-- Whether a line ends in a backslash that is not quoted by another one. -/
  endsJoined (reversed : List Char) : Bool :=
    (reversed.takeWhile (· == '\\')).length % 2 == 1

/-- The character that a number written in some digits stands for. -/
def numberedChar (base most : Nat) (cs : List Char) : Nat × List Char :=
  let ds := (cs.take most).takeWhile fun c => (digitValue? c).any (· < base)
  ((takeDigits base ds 0 0).1, cs.drop ds.length)

/-- Text between quotes with a dollar sign, up to its end. -/
def ansiText : Nat → List Char → List Char → Option (List Char × List Char)
  | 0, _, _ => none
  | n + 1, cs, acc =>
    match cs with
    | [] => none
    | '\x27' :: rest => some (acc.reverse, rest)
    | '\\' :: c :: rest =>
      let simple (d : Char) := ansiText n rest (d :: acc)
      match c with
      | 'n' => simple '\n'
      | 't' => simple '\t'
      | 'r' => simple '\r'
      | 'a' => simple '\x07'
      | 'b' => simple '\x08'
      | 'e' | 'E' => simple '\x1b'
      | 'f' => simple '\x0c'
      | 'v' => simple '\x0b'
      | 'x' =>
        match rest with
        | '\x7b' :: more =>
          let (v, after) := numberedChar 16 more.length more
          let after := if after.head? == some '\x7d' then after.drop 1 else after
          ansiText n after (Char.ofNat (v % 256) :: acc)
        | _ =>
          let (v, after) := numberedChar 16 2 rest
          if after.length == rest.length then ansiText n rest ('x' :: '\\' :: acc)
          else ansiText n after (Char.ofNat v :: acc)
      | 'u' | 'U' =>
        let (v, after) := numberedChar 16 (if c == 'u' then 4 else 8) rest
        if after.length == rest.length then ansiText n rest (c :: '\\' :: acc)
        else ansiText n after ((codedText v).toList.reverse ++ acc)
      | 'c' =>
        match rest with
        | d :: after =>
          let after := if d == '\\' && after.head? == some '\\' then after.drop 1 else after
          ansiText n after (Char.ofNat (if d == '?' then 127 else d.toUpper.toNat % 32) :: acc)
        | [] => ansiText n rest ('c' :: '\\' :: acc)
      | c =>
        if between '0' '7' c then
          let (v, after) := numberedChar 8 3 (c :: rest)
          ansiText n after (Char.ofNat (v % 256) :: acc)
        else if c == '\\' || c == '\x27' || c == '"' || c == '?' then simple c
        else ansiText n rest (c :: '\\' :: acc)
    | c :: rest => ansiText n rest (c :: acc)

/-- Text between backquotes, with the backslashes gone that protect special characters. -/
def backquoted (inQuotes : Bool) : List Char → List Char → Option (List Char × List Char)
  | [], _ => none
  | '\x60' :: rest, acc => some (acc.reverse, rest)
  | '\\' :: '\n' :: rest, acc => backquoted inQuotes rest acc
  | '\\' :: c :: rest, acc =>
    if c == '\\' || c == '\x60' || c == '$' || (inQuotes && c == '"') then
      backquoted inQuotes rest (c :: acc)
    else backquoted inQuotes rest (c :: '\\' :: acc)
  | c :: rest, acc => backquoted inQuotes rest (c :: acc)

/-- Which words and characters are looked for in the next token. -/
structure Looking where
  newlines : Bool := false
  keywords : Bool := false
  aliases : Bool := false
  /-- Whether brackets behind a name belong to an assignment. -/
  values : Bool := false
  /-- Whether brackets may stand without a name. -/
  keys : Bool := false

def Looking.forCommand : Looking := { keywords := true, aliases := true, values := true }
def Looking.all : Looking := { Looking.forCommand with newlines := true }

/-- Looking for a keyword, on this line or a later one. -/
def Looking.forKeyword : Looking := { newlines := true, keywords := true }

/-- The commands whose arguments may be assignments of lists. -/
def assigningCommands : List String :=
  ["alias", "declare", "export", "local", "readonly", "typeset"]

/-- Where the text begins that is still to be taken in. -/
def placeOf (s : Reader) : List Char := if s.pushed.isSome then s.start else s.rest

/-- The line of the next token. -/
def lineOf (s : Reader) : Nat := s.lastLine - (placeOf s).count '\n'

def put (t : Token) : Read Unit := modify fun s => { s with pushed := some t }

def setRest (cs : List Char) : Read Unit := modify fun s => { s with rest := cs }

def Token.name : Token → String
  | .word w _ => Shell.literal w
  | .keyword k => k
  | .operator o => if o == "\n" then "newline" else o
  | .redirection _ o => o
  | .finish => "end of file"

/-- What kind of token it is, as the plain shell says it. -/
def Token.kind : Token → String
  | .word _ _ => "word"
  | .redirection _ _ => "redirection"
  | .operator "\n" => "newline"
  | .operator o => "\"" ++ o ++ "\""
  | .keyword k => "\"" ++ k ++ "\""
  | .finish => "end of file"

/-- Give up at a token where another one is wanted. -/
def misreadFor {α : Type} (wanted : String) (t : Token) : Read α := do
  let s ← get
  match t with
  | .finish =>
    throw (if s.passesLines then .unexpected t.name t.kind wanted s.endLine
      else .unexpected "newline" t.kind wanted s.lastLine)
  | t => throw (.unexpected t.name t.kind wanted (s.lastLine - s.start.count '\n'))

/-- Give up at a token. -/
def misread {α : Type} (t : Token) : Read α := misreadFor "" t

/-- Give up a condition at a token. -/
def misreadTest {α : Type} (why : String) (t : Token) : Read α := do
  let s ← get
  throw (.condition why t.name (s.lastLine - s.start.count '\n'))

/-- Give up because what would close something is missing. -/
def unclosed {α : Type} (rich : Bool) (mark : String) : Read α := do
  let s ← get
  throw (.unterminated mark (if rich then s.lastLine - s.start.count '\n' else s.endLine))

/-- What closes the context of some parts. -/
def Context.mark : Context → String
  | .quotes => "\""
  | .brace _ => "\x7d"
  | .arithmetic _ => "))"
  | .index _ => "]"
  | _ => ")"

/-- The tokens in front of which a list ends. -/
def isEnd : Token → Bool
  | .finish => true
  | .operator o => [")", ";;", ";&", ";;&"].contains o
  | .keyword k => ["do", "done", "elif", "else", "esac", "fi", "then", "\x7d"].contains k
  | _ => false

def specialBuiltins : List String :=
  ["break", ":", "continue", ".", "eval", "exec", "exit", "export", "readonly", "return", "set",
    "shift", "times", "trap", "unset"]

def join (a : Option Command) (b : Command) : Command :=
  match a with
  | some a => .sequence a b
  | none => b

def conditionOperators : List String :=
  ["=", "==", "!=", "=~", "-eq", "-ne", "-lt", "-le", "-gt", "-ge", "-nt", "-ot", "-ef"]

def isConditionTest (s : String) : Bool :=
  match s.toList with
  | ['-', c] => "abcdefghknoprstuvwxzGLNOSR".toList.contains c
  | _ => false

/-- Whether what was read last is a sign that makes a group of the parentheses behind it. -/
def opensGroup : List Part → Bool
  | .plain s :: _ => (s.toList.getLast?).any fun c => "?*+@!".toList.contains c
  | _ => false

/-- Put parts before others that are kept in reverse. -/
def pushAll (ps acc : List Part) : List Part := ps.foldl (fun acc p => pushPart p acc) acc

/-- The tokens with which commands begin that hold others. -/
def isCompound : Token → Bool
  | .operator o => o == "("
  | .keyword k =>
    ["\x7b", "if", "while", "until", "for", "case", "select", "[["].contains k
  | _ => false

/-- How a redirection is written. -/
def writtenRedirection (handle : Handle) (operator word : String) : String :=
  let usual := if operator.startsWith "<" then 0 else 1
  let likens := operator == "<&" || operator == ">&"
  let number := match handle with
    | .usual => if likens then toString usual else ""
    | .number n => if n = usual && !likens then "" else toString n
    | .kept name => "\x7b" ++ name ++ "\x7d"
  number ++ operator ++ (if likens || operator == "<<" || operator == "<<-" then "" else " ") ++
    word

/-- How an expression of a counting loop is written; an empty one counts as one. -/
def writtenExpression (text : String) : String :=
  let cs := text.toList.dropWhile fun c => c == ' ' || c == '\t'
  if cs.isEmpty then "1" else String.ofList cs

section Reading

variable (g : Grammar)

/-- Let go of the aliases whose text is used up; the flag says whether one of them ended in a
blank, so that the word behind it can be an alias too. -/
def dropAliases : Read Bool := do
  let s ← get
  if s.inUse.isEmpty then pure false
  else
    let left := s.rest.length
    let gone := s.inUse.filter fun a => left < a.2.1
    set { s with inUse := s.inUse.filter fun a => a.2.1 ≤ left }
    pure (gone.any (·.2.2))

mutual

/-- Read the parts of a word up to its end; the flag says whether anything was quoted. -/
def readParts : Nat → Context → List Part → Bool → Read (Word × Bool)
  | 0, _, _, _ => throw .tooDeep
  | n + 1, ctx, acc, q => do
    let s ← get
    let done : Read (Word × Bool) := pure (acc.reverse, q)
    let go (rest : List Char) (p : Part) (q : Bool) : Read (Word × Bool) := do
      setRest rest
      readParts n ctx (pushPart p acc) q
    match s.rest with
    | [] =>
      match ctx with
      | .base | .lines | .regex _ | .upTo _ _ => done
      | _ => unclosed g.rich ctx.mark
    | '\\' :: '\n' :: rest =>
      setRest rest
      readParts n ctx acc q
    | ['\\'] => go [] (.fixed "\\") q
    | '\\' :: c :: rest =>
      if ctx.allowsQuotes then go rest (.fixed c.toString) true
      else
        let removable := match ctx with
          | .lines => "$\x60\\"
          | .brace true => "$\x60\"\\\x7d"
          | _ => "$\x60\"\\"
        if removable.toList.contains c then go rest (.fixed c.toString) true
        else go rest (.fixed ("\\" ++ c.toString)) q
    | '$' :: rest =>
      setRest rest
      let (p, quoted) ← readDollar n ctx
      readParts n ctx (pushPart p acc) (q || quoted)
    | '\x60' :: rest =>
      match backquoted (!ctx.allowsQuotes) rest [] with
      | none => unclosed g.rich "\x60"
      | some (body, after) =>
        let c ← readInner n body
        go after (.output c) q
    | c :: rest =>
      if !ctx.specials.contains c then
        let run := s.rest.takeWhile fun c => !ctx.specials.contains c
        go (s.rest.drop run.length) (.plain (String.ofList run)) q
      else if c == '\x27' then
        let text := rest.takeWhile (· != '\x27')
        match rest.drop text.length with
        | [] => unclosed g.rich "\x27"
        | _ :: after => go after (.fixed (String.ofList text)) true
      else
        match ctx with
        | .quotes =>
          setRest rest
          done
        | .brace _ =>
          if c == '\x7d' then do
            setRest rest
            done
          else do
            setRest rest
            let (ps, _) ← readParts n .quotes [] false
            readParts n ctx (pushPart (.quoted ps) acc) true
        | .arithmetic depth =>
          if c == '(' then do
            setRest rest
            readParts n (.arithmetic (depth + 1)) (pushPart (.plain "(") acc) q
          else if c == ')' then
            if depth = 0 then
              match rest with
              | ')' :: after => do
                setRest after
                done
              | _ => go rest (.plain ")") q
            else do
              setRest rest
              readParts n (.arithmetic (depth - 1)) (pushPart (.plain ")") acc) q
          else if g.rich then do
            setRest rest
            readParts n ctx acc q
          else go rest (.plain c.toString) q
        | .regex depth =>
          if c == '"' then do
            setRest rest
            let (ps, _) ← readParts n .quotes [] false
            readParts n ctx (pushPart (.quoted ps) acc) true
          else if c == '(' then do
            setRest rest
            readParts n (.regex (depth + 1)) (pushPart (.plain "(") acc) q
          else if c == ')' && 0 < depth then do
            setRest rest
            readParts n (.regex (depth - 1)) (pushPart (.plain ")") acc) q
          else if (c == ' ' || c == '\t') && 0 < depth then go rest (.plain c.toString) q
          else done
        | .index depth =>
          if c == '"' then do
            setRest rest
            let (ps, _) ← readParts n .quotes [] false
            readParts n ctx (pushPart (.quoted ps) acc) true
          else if c == '[' then do
            setRest rest
            readParts n (.index (depth + 1)) (pushPart (.plain "[") acc) q
          else if 0 < depth then do
            setRest rest
            readParts n (.index (depth - 1)) (pushPart (.plain "]") acc) q
          else done
        | .group =>
          if c == '"' then do
            setRest rest
            let (ps, _) ← readParts n .quotes [] false
            readParts n ctx (pushPart (.quoted ps) acc) true
          else if c == '(' then do
            setRest rest
            let (inner, q') ← readParts n .group [] false
            readParts n ctx (pushPart (.plain ")") (pushAll inner (pushPart (.plain "(") acc)))
              (q || q')
          else do
            setRest rest
            done
        | _ =>
          if c == '"' then do
            setRest rest
            let (ps, _) ← readParts n .quotes [] false
            readParts n ctx (pushPart (.quoted ps) acc) true
          else if g.rich && (c == '<' || c == '>') && rest.head? == some '(' then do
            setRest (rest.drop 1)
            let body ← readSubstituted n
            readParts n ctx (pushPart (.channel (c == '<') body) acc) q
          else if c == '(' && s.groups && opensGroup acc then do
            setRest rest
            let (inner, q') ← readParts n .group [] false
            readParts n ctx (pushPart (.plain ")") (pushAll inner (pushPart (.plain "(") acc)))
              (q || q')
          else done

/-- Read what follows a dollar sign. -/
def readDollar : Nat → Context → Read (Part × Bool)
  | 0, _ => throw .tooDeep
  | n + 1, ctx => do
    modify fun s => { s with rest := smooth 2 s.rest }
    let s ← get
    let quoted := !ctx.allowsQuotes
    match s.rest with
    | '(' :: '(' :: rest =>
      if g.rich then
        let attempt := do
          setRest rest
          let (ps, _) ← readParts n (.arithmetic 0) [] false
          pure ps
        let fallback := do
          setRest ('(' :: rest)
          let c ← readSubstituted n
          pure c
        match attempt.run s with
        | .ok (ps, t) => do
          set t
          pure (.arithmetic ps, false)
        | .error _ =>
          match fallback.run s with
          | .ok (c, t) => do
            set t
            pure (.output c, false)
          | .error (.unterminated _ _) =>
            throw (.unterminated ")" (s.lastLine - s.rest.count '\n'))
          | .error why => throw why
      else do
        setRest rest
        let (ps, _) ← readParts n (.arithmetic 0) [] false
        pure (.arithmetic ps, false)
    | '(' :: rest => do
      setRest rest
      let c ← readSubstituted n
      pure (.output c, false)
    | '\x7b' :: rest => do
      setRest rest
      let p ← readBrace n quoted
      pure (p, false)
    | '[' :: rest =>
      if g.rich then do
        setRest rest
        let (ps, _) ← readParts n (.upTo [']'] true) [] false
        modify fun t => { t with rest := t.rest.drop 1 }
        pure (.arithmetic ps, false)
      else pure (if quoted then .fixed "$" else .plain "$", false)
    | c :: rest =>
      if isNameStart c then
        let (name, after) := takeJoined isNameChar s.rest
        setRest after
        pure (.parameter (String.ofList name) none .value, false)
      else if isDigit c || isSpecialParameter c then
        setRest rest
        pure (.parameter c.toString none .value, false)
      else if g.rich && c == '\x27' && (!quoted || ctx == .brace true) then
        match ansiText (rest.length + 1) rest [] with
        | some (text, after) =>
          setRest after
          pure (.fixed (String.ofList text), true)
        | none => unclosed g.rich "\x27"
      else if g.rich && c == '"' && !quoted then do
        setRest rest
        let (ps, _) ← readParts n .quotes [] false
        pure (.quoted ps, true)
      else pure (if quoted then .fixed "$" else .plain "$", false)
    | [] => pure (if quoted then .fixed "$" else .plain "$", false)

/-- Read a parameter behind its opening brace. -/
def readBrace : Nat → Bool → Read Part
  | 0, _ => throw .tooDeep
  | n + 1, quoted => do
    modify fun s => { s with rest := smooth 3 s.rest }
    let s ← get
    /- A brace that cannot be understood is a fault only when it is expanded. -/
    let bad : Read Part := do
      let _ ← readParts n (.brace quoted) [] false
      pure (.parameter "" none .bad)
    let named (name rest : List Char) (indirect : Bool) : Read Part := do
      setRest rest
      let index ←
        if g.rich && rest.head? == some '[' then do
          setRest (rest.drop 1)
          let (i, _) ← readParts n (.index 0) [] false
          let t ← get
          setRest (t.rest.drop 1)
          pure (some i)
        else pure none
      let name := String.ofList name
      if indirect then
        let t ← get
        let isList := match index with
          | some [.plain "@"] | some [.plain "*"] => true
          | _ => false
        match t.rest, isList with
        | '\x7d' :: after, true => do
          setRest after
          pure (.parameter name index .indices)
        | '@' :: '\x7d' :: after, false | '*' :: '\x7d' :: after, false => do
          setRest after
          pure (.parameter name index .names)
        | _, _ => do
          match ← readUse n quoted name index with
          | .parameter name index use => pure (.parameter name index (.indirect use))
          | p => pure p
      else readUse n quoted name index
    match s.rest with
    | '#' :: '\x7d' :: rest => do
      setRest rest
      pure (.parameter "#" none .value)
    | '#' :: c :: rest =>
      let (name, after) :=
        if isNameStart c then takeJoined isNameChar (c :: rest)
        else if isDigit c then takeJoined isDigit (c :: rest)
        else if isSpecialParameter c then ([c], rest)
        else ([], c :: rest)
      if name.isEmpty then named ['#'] (c :: rest) false
      else
        match after with
        | '\x7d' :: after => do
          setRest after
          pure (.parameter (String.ofList name) none .length)
        | '[' :: more =>
          if g.rich then do
            setRest more
            let (i, _) ← readParts n (.index 0) [] false
            let t ← get
            match t.rest with
            | ']' :: '\x7d' :: after => do
              setRest after
              pure (.parameter (String.ofList name) (some i) .length)
            | _ => bad
          else bad
        | _ =>
          if isNameStart c || isDigit c then bad else named ['#'] (c :: rest) false
    | '!' :: c :: rest =>
      if g.rich && isNameStart c then
        let (name, after) := takeJoined isNameChar (c :: rest)
        named name after true
      else if g.rich && isDigit c then
        let name := (c :: rest).takeWhile isDigit
        named name ((c :: rest).drop name.length) true
      else if g.rich && c == '#' && rest.head? == some '\x7d' then named ['#'] rest true
      else named ['!'] (c :: rest) false
    | c :: rest =>
      if isNameStart c then
        let (name, after) := takeJoined isNameChar s.rest
        named name after false
      else if isDigit c then
        let (name, after) := takeJoined isDigit s.rest
        named name after false
      else if isSpecialParameter c then named [c] rest false
      else bad
    | [] => unclosed g.rich "\x7d"

/-- Read what is done with a parameter, up to the closing brace. -/
def readUse : Nat → Bool → String → Option Word → Read Part
  | 0, _, _, _ => throw .tooDeep
  | n + 1, quoted, name, index => do
    modify fun s => { s with rest := smooth 2 s.rest }
    let s ← get
    let part (u : Use) : Read Part := pure (.parameter name index u)
    let bad : Read Part := do
      let _ ← readParts n (.brace quoted) [] false
      pure (.parameter name index .bad)
    let fallback (nullToo : Bool) (c : Char) (rest : List Char) : Read Part := do
      setRest rest
      let (w, _) ← readParts n (.brace quoted) [] false
      let kind : Fallback :=
        match c with
        | '-' => .replace
        | '=' => .assign
        | '?' => .complain
        | _ => .alternative
      part (.fallback nullToo kind w)
    let trim (front longest : Bool) (rest : List Char) : Read Part := do
      setRest rest
      let (w, _) ← readParts n (.brace false) [] false
      part (.trim front longest w)
    match s.rest with
    | [] => unclosed g.rich "\x7d"
    | '\x7d' :: rest => do
      setRest rest
      part .value
    | ':' :: c :: rest =>
      if "-=?+".toList.contains c then fallback true c rest
      else if g.rich && c != '\x7d' then do
        setRest (c :: rest)
        let (start, _) ← readParts n (.upTo [':', '\x7d'] true) [] false
        let t ← get
        match t.rest with
        | ':' :: more => do
          setRest more
          let (len, _) ← readParts n (.brace true) [] false
          part (.slice start (some len))
        | '\x7d' :: more => do
          setRest more
          part (.slice start none)
        | _ => unclosed g.rich "\x7d"
      else bad
    | '#' :: '#' :: rest => trim true true rest
    | '#' :: rest => trim true false rest
    | '%' :: '%' :: rest => trim false true rest
    | '%' :: rest => trim false false rest
    | '/' :: rest =>
      if g.rich then
        let (mark, rest) : Option Char × List Char :=
          match rest with
          | '/' :: more => (some '/', more)
          | '#' :: more => (some '#', more)
          | '%' :: more => (some '%', more)
          | more => (none, more)
        /- A slash at the very front belongs to the pattern. -/
        let (front, rest) : List Part × List Char :=
          match mark, rest with
          | some '/', '/' :: more => ([.plain "/"], more)
          | _, more => ([], more)
        setRest rest
        let (pattern, _) ← readParts n (.upTo ['/', '\x7d'] false) front false
        let t ← get
        match t.rest with
        | '/' :: more => do
          setRest more
          let (replacement, _) ← readParts n (.brace false) [] false
          part (.substitute mark pattern replacement)
        | '\x7d' :: more => do
          setRest more
          part (.substitute mark pattern [])
        | _ => unclosed g.rich "\x7d"
      else bad
    | c :: rest =>
      if "-=?+".toList.contains c then fallback false c rest
      else if g.rich && c == '@' && isTransform rest then do
        setRest (rest.drop 2)
        part (.transform (rest.headD ' '))
      else if g.rich && (c == '^' || c == ',' || c == '~') then
        let all := rest.head? == some c
        let rest := if all then rest.drop 1 else rest
        setRest rest
        let (pattern, _) ← readParts n (.brace false) [] false
        part (.changeCase (if c == '^' then .raise else if c == ',' then .lower else .swap) all
          pattern)
      else bad

where
  isTransform : List Char → Bool
    | c :: '\x7d' :: _ => "QEPAKakuUL".toList.contains c
    | _ => false

/-- Read commands up to a closing parenthesis. -/
def readSubstituted : Nat → Read (Option Command)
  | 0 => throw .tooDeep
  | n + 1 => do
    let outer ← get
    let inside : Read (Option Command) := do
      set { outer with awaited := [], pushed := none }
      let c ← readList n true true none
      let t ← readToken n {}
      match t with
      | .operator ")" =>
        readBodies n
        modify fun s => { s with awaited := outer.awaited, pushed := none }
        pure c
      | t => misreadFor ")" t
    match inside.run outer with
    | .ok (c, s) => do
      set s
      pure c
    | .error (.unexpected t kind wanted line) =>
      throw (if kind == "end of file" then
          if g.rich then .unterminated ")" outer.endLine else .unexpected t kind ")" line
        else if g.rich then .inWord t line
        else .unexpected t kind wanted line)
    | .error why => throw why

/-- Read a text of its own as commands. -/
def readInner : Nat → List Char → Read (Option Command)
  | 0, _ => throw .tooDeep
  | n + 1, body => do
    let outer ← get
    let line := lineOf outer
    set { outer with
      rest := body, awaited := [], pushed := none, lastLine := line + body.count '\n' }
    let c ← readList n true true none
    readBodies n
    modify fun s => { s with
      rest := outer.rest, awaited := outer.awaited, pushed := none, lastLine := outer.lastLine }
    pure c

/-- Fetch the lines that redirections wait for. -/
def readBodies : Nat → Read Unit
  | 0 => throw .tooDeep
  | n + 1 => do
    let s ← get
    match s.awaited with
    | [] => pure ()
    | a :: others => do
      let (text, rest, isMarked) := takeLines a.mark.toList a.stripTabs (!a.isFixed) false
        (s.rest.length + 1) s.rest []
      /- The rich shell ends the last line of a text. -/
      let text := if g.rich && !isMarked && text.getLast?.any (· != '\n') then text ++ ['\n']
        else text
      if !isMarked then modify fun s => { s with unmarked := (a.line, a.mark) :: s.unmarked }
      let s ← get
      let body ←
        if a.isFixed then pure [.fixed (String.ofList text)]
        else do
          set { s with rest := text, awaited := [] }
          let (ps, _) ← readParts n .lines [] false
          pure [Part.quoted ps]
      let lines : Lines := ⟨body, String.ofList text ++ a.mark ++ "\n"⟩
      modify fun t =>
        { t with rest := rest, awaited := others, bodies := (a.number, lines) :: t.bodies }
      readBodies n

/-- Read the next token. -/
def readToken : Nat → Looking → Read Token
  | 0, _ => throw .tooDeep
  | n + 1, l => do
    let t ← readRaw n l
    match t with
    | .operator "\n" =>
      if l.newlines then do
        readBodies n
        readToken n l
      else pure t
    | .word w false =>
      match plainText? w with
      | some text =>
        let isKeyword := keywords.contains text || g.rich && richKeywords.contains text
        if l.keywords && isKeyword then pure (.keyword text)
        else
          let afterAlias ← dropAliases
          let s ← get
          match (if l.aliases || afterAlias then g.aliases.lookup text else none) with
          | some value =>
            if s.inUse.any (·.1 == text) then pure t
            else do
              let blank := match value.toList.getLast? with
                | some c => c == ' ' || c == '\t'
                | none => false
              set { s with
                rest := value.toList ++ s.rest
                inUse := (text, s.rest.length, blank) :: s.inUse }
              readToken n l
          | none => pure t
      | none => pure t
    | _ => pure t

/-- Read an assignment with an index behind its name, if there is one. -/
def readIndexed : Nat → Bool → Read (Option (Word × Bool))
  | 0, _ => throw .tooDeep
  | n + 1, keys => do
    let s ← get
    let name := s.rest.takeWhile isNameChar
    match s.rest.drop name.length with
    | '[' :: rest =>
      if (name.isEmpty && keys) || isName (String.ofList name) then
        let attempt : Read (Option (Word × Bool)) := do
          setRest rest
          let (index, _) ← readParts n (.index 0) [] false
          let t ← get
          match t.rest with
          | ']' :: '=' :: _ | ']' :: '+' :: '=' :: _ => do
            setRest (t.rest.drop 1)
            let (value, q) ← readParts n .base [] false
            pure (some (.plain (String.ofList name) :: .subscript index :: value, q))
          | _ => pure none
        match attempt.run s with
        | .ok (some r, t) => do
          set t
          pure (some r)
        | _ => pure none
      else pure none
    | _ => pure none

/-- Read a token as it stands, or take the one that was put back. -/
def readRaw : Nat → Looking → Read Token
  | 0, _ => throw .tooDeep
  | n + 1, l => do
    let s ← get
    match s.pushed with
    | some t => do
      set { s with pushed := none }
      pure t
    | none =>
      modify fun s => { s with passesLines := l.newlines }
      let s ← get
      let cs := dropBlank false s.rest
      let cs := if cs.head?.any isMeta then smooth 3 cs else cs
      set { s with rest := cs, start := cs }
      match cs with
      | [] => pure .finish
      | _ =>
        match numbered? g.rich cs with
        | some (d, o, rest) => do
          setRest rest
          pure (.redirection d o)
        | none =>
          match operator? g.rich cs with
          | some (o, rest) => do
            setRest rest
            pure (.operator o)
          | none => do
            let indexed? ← if g.rich && l.values then readIndexed n l.keys else pure none
            let (w, q) ← match indexed? with
              | some r => pure r
              | none => readParts n .base [] false
            let t ← get
            let isList := g.rich && l.values && t.rest.head? == some '(' &&
              (w.getLast?.any isAssignmentEnd) && (assignment? w).any (·.2.2.2.isEmpty)
            let w ← if isList then do
                setRest (t.rest.drop 1)
                let (ws, text) ← readElements n [] []
                modify fun u => { u with latest := textBetween cs t.rest ++ "(" ++ text ++ ")" }
                pure (w ++ [.elements ws text])
              else do
                if g.rich then modify fun t => { t with latest := textBetween cs t.rest }
                pure w
            pure (.word w q)
where
  isAssignmentEnd : Part → Bool
    | .plain s => s.endsWith "="
    | _ => false

/-- Read the elements of a list up to its closing parenthesis, with how they are written. -/
def readElements : Nat → List Word → List String → Read (List Word × String)
  | 0, _, _ => throw .tooDeep
  | n + 1, acc, texts => do
    let t ← readToken n { newlines := true, values := true, keys := true }
    match t with
    | .word w _ => do
      let s ← get
      readElements n (w :: acc) (s.latest :: texts)
    | .operator ")" => pure (acc.reverse, " ".intercalate texts.reverse)
    | .finish => do
      let s ← get
      throw (.openList (s.lastLine - s.rest.count '\n'))
    | t => misread t

/-- Read a list of commands. Within other commands line ends only separate, and an end token
may be met where one is allowed. -/
def readList : Nat → Bool → Bool → Option Command → Read (Option Command)
  | 0, _, _, _ => throw .tooDeep
  | n + 1, inner, mayEnd, first => do
    let t ← readToken n { Looking.forCommand with newlines := inner }
    match t with
    | .operator "\n" => do
      readBodies n
      pure first
    | .finish => do
      readBodies n
      put .finish
      pure first
    | t => do
      put t
      if inner && mayEnd && isEnd t then pure first
      else
        let c ← readAndOr n
        let t ← readToken n {}
        let isBackground := match t with
          | .operator "&" => true
          | _ => false
        let c :=
          if isBackground then
            match c with
            | .pipeline cs _ => .pipeline cs true
            | c => .background c
          else c
        let all := join first c
        match t with
        | .finish => do
          readBodies n
          put .finish
          modify fun s => { s with passesLines := true }
          pure (some all)
        | .operator "\n" => do
          put t
          readList n inner true (some all)
        | .operator "&" | .operator ";" => readList n inner true (some all)
        | t =>
          if !inner then misread t
          else do
            put t
            pure (some all)

/-- Read a list that has to hold a command, up to a token that is wanted. -/
def readBody : Nat → String → Read Command
  | 0, _ => throw .tooDeep
  | n + 1, wanted => do
    match ← readList n true false none with
    | some c => pure c
    | none => misreadFor wanted .finish

/-- Expect a keyword. -/
def expect : Nat → Looking → String → Read Unit
  | 0, _, _ => throw .tooDeep
  | n + 1, l, k => do
    let t ← readToken n l
    match t with
    | .keyword k' => if k == k' then pure () else misreadFor k t
    | t => misreadFor k t

def readAndOr : Nat → Read Command
  | 0 => throw .tooDeep
  | n + 1 => do
    let a ← readPipeline n {}
    moreAndOr n a

/-- Read the commands that are run on the success or the failure of another. -/
def moreAndOr : Nat → Command → Read Command
  | 0, _ => throw .tooDeep
  | n + 1, a => do
    let t ← readToken n {}
    match t with
    | .operator "&&" => do
      let b ← readPipeline n .all
      moreAndOr n (.both a b)
    | .operator "||" => do
      let b ← readPipeline n .all
      moreAndOr n (.either a b)
    | t => do
      put t
      pure a

def readPipeline : Nat → Looking → Read Command
  | 0, _ => throw .tooDeep
  | n + 1, l => do
    let t ← readToken n l
    match t with
    | .keyword "!" => do
      let t ← readToken n .forCommand
      put t
      match g.rich, t with
      | true, .finish | true, .operator "\n" | true, .operator ";" =>
        pure (.not (.simple [] [] [] {}))
      | true, _ => do
        let c ← readPipeline n .forCommand
        pure (.not c)
      | false, _ => do
        let c ← readPipes n .forCommand
        pure (.not c)
    | .keyword "time" => do
      let t ← readToken n .forCommand
      match t with
      | .word [.plain "-p"] false => readMeasured n true
      | t => do
        put t
        readMeasured n false
    | t => do
      put t
      readPipes n {}

/-- Read the pipeline whose time shall be told. -/
def readMeasured : Nat → Bool → Read Command
  | 0, _ => throw .tooDeep
  | n + 1, isPlain => do
    let t ← readToken n .forCommand
    put t
    match t with
    | .finish | .operator "\n" | .operator ";" => pure (.timed isPlain (.simple [] [] [] {}))
    | _ => do
      let c ← readPipeline n .forCommand
      pure (.timed isPlain c)

def readPipes : Nat → Looking → Read Command
  | 0, _ => throw .tooDeep
  | n + 1, l => do
    let c ← readCommand n l
    morePipes n [c]

/-- Read the commands that read what others write. -/
def morePipes : Nat → List Command → Read Command
  | 0, _ => throw .tooDeep
  | n + 1, acc => do
    let t ← readToken n {}
    match t, acc with
    | .operator "|", _ => do
      let c ← readCommand n .all
      morePipes n (c :: acc)
    | .operator "|&", last :: before => do
      let both : Redirection := .mk (.number 2) .likeOutput [.plain "1"] "2>&1"
      let c ← readCommand n .all
      morePipes n (c :: .redirected last [both] :: before)
    | t, [c] => do
      put t
      pure c
    | t, cs => do
      put t
      pure (.pipeline cs.reverse false)

def readCommand : Nat → Looking → Read Command
  | 0, _ => throw .tooDeep
  | n + 1, l => do
    let t ← readToken n l
    match t with
    | .keyword "if" => do
      let c ← readIf n
      readRedirected n c
    | .keyword "while" => do
      let c ← readLoop n false
      readRedirected n c
    | .keyword "until" => do
      let c ← readLoop n true
      readRedirected n c
    | .keyword "for" => do
      let c ← readFor n
      readRedirected n c
    | .keyword "case" => do
      let c ← readCase n
      readRedirected n c
    | .keyword "select" => do
      let c ← readMenu n
      readRedirected n c
    | .keyword "coproc" => do
      let before ← get
      let t ← readToken n .forCommand
      match t with
      | .word w _ => do
        let t ← readToken n .forCommand
        if isCompound t then do
          put t
          let c ← readCommand n .forCommand
          pure (.beside (literal w) c)
        else do
          set before
          let c ← readCommand n .forCommand
          pure (.beside "COPROC" c)
      | t => do
        put t
        let c ← readCommand n .forCommand
        pure (.beside "COPROC" c)
    | .keyword "\x7b" => do
      let c ← readBody n "\x7d"
      expect n {} "\x7d"
      readRedirected n (.group c)
    | .keyword "[[" => do
      let c ← readConditionOr n
      let t ← readToken n { newlines := true }
      match t with
      | .word [.plain "]]"] false => readRedirected n (.condition c)
      | t => misread t
    | .keyword "function" => do
      let t ← readToken n {}
      match t with
      | .word w _ => do
        let t ← readToken n .forKeyword
        match t with
        | .operator "(" => do
          let t ← readToken n {}
          match t with
          | .operator ")" => pure ()
          | t => misread t
        | t => put t
        readFunction n (literal w)
      | t => misread t
    | .operator "(" => do
      let s ← get
      let subshell : Read Command := do
        let c ← readBody n ")"
        let t ← readToken n {}
        match t with
        | .operator ")" => readRedirected n (.subshell c [])
        | t => misreadFor ")" t
      match g.rich, s.rest with
      | true, '(' :: rest =>
        let attempt := do
          setRest rest
          let (ps, _) ← readParts n (.arithmetic 0) [] false
          pure ps
        match attempt.run s with
        | .ok (ps, t) => do
          set t
          let text := textBetween rest t.rest
          readRedirected n (.calculate ps (text.dropEnd 2).toString)
        | .error _ =>
          match subshell.run s with
          | .ok (c, t) => do
            set t
            pure c
          | .error (.unexpected "end of file" _ _ _) =>
            throw (.unterminated ")" (s.lastLine - s.rest.count '\n'))
          | .error why => throw why
      | _, _ => subshell
    | .word _ _ | .redirection _ _ => do
      put t
      let s ← get
      readSimple n true [] [] [] { line := lineOf s }
    | t => misread t

/-- Read the body of a function. -/
def readFunction : Nat → String → Read Command
  | 0, _ => throw .tooDeep
  | n + 1, name => do
    let t ← readToken n .all
    put t
    if g.rich && !isCompound t then misread t
    let body ← readCommand n .all
    pure (.define name body)

/-- Read the redirections behind a command. -/
def readRedirected : Nat → Command → Read Command
  | 0, _ => throw .tooDeep
  | n + 1, c => do
    let rs ← readRedirections n []
    if rs.isEmpty then pure c
    else
      match c with
      | .subshell c _ => pure (.subshell c rs)
      | c => pure (.redirected c rs)

def readRedirections : Nat → List Redirection → Read (List Redirection)
  | 0, _ => throw .tooDeep
  | n + 1, acc => do
    let t ← readToken n .forCommand
    match t with
    | .redirection d o => do
      let r ← readRedirection n d o
      readRedirections n (r :: acc)
    | t => do
      put t
      pure acc.reverse

/-- Read the word of a redirection. -/
def readRedirection : Nat → Handle → String → Read Redirection
  | 0, _, _ => throw .tooDeep
  | n + 1, d, o => do
    let t ← readToken n {}
    match t with
    | .word w q => do
      let s ← get
      let text := if g.rich then writtenRedirection d o s.latest else ""
      match o with
      | "<<" | "<<-" => do
        let a : Awaited := ⟨s.counter, literal w, q, o == "<<-", lineOf s⟩
        set { s with awaited := s.awaited ++ [a], counter := s.counter + 1 }
        pure (.mk d .lines [.fixed (toString a.number)] text)
      | "<<<" => pure (.mk d .line w text)
      | "<" => pure (.mk d .input w text)
      | ">" => pure (.mk d .output w text)
      | ">|" => pure (.mk d .overwrite w text)
      | ">>" => pure (.mk d .append w text)
      | "<>" => pure (.mk d .both w text)
      | "<&" => pure (.mk d .likeInput w text)
      | ">&" => pure (.mk d .likeOutput w text)
      | "&>" => pure (.mk d (.everything false) w text)
      | _ => pure (.mk d (.everything true) w text)
    | t => misread t

/-- Read assignments, words and redirections in any order, or the definition of a function. -/
def readSimple : Nat → Bool → List Word → List Word → List Redirection → Origin → Read Command
  | 0, _, _, _, _, _ => throw .tooDeep
  | n + 1, isFirst, vars, words, redirs, origin => do
    let assigns := (words.getLast?.bind plainText?).any assigningCommands.contains
    let t ← readToken n { aliases := isFirst, values := isFirst || assigns }
    let told (text : String) : Origin :=
      { origin with text := if origin.text.isEmpty then text else origin.text ++ " " ++ text }
    match t with
    | .word w _ => do
      let s ← get
      let isAssignment := if g.rich then (assignment? w).isSome else isPlainAssignment w
      if isFirst && isAssignment then readSimple n true (w :: vars) words redirs (told s.latest)
      else readSimple n false vars (w :: words) redirs (told s.latest)
    | .redirection d o => do
      let r ← readRedirection n d o
      readSimple n isFirst vars words (r :: redirs) origin
    | .operator "(" =>
      match vars, words, redirs with
      | [], [w], [] => do
        let t ← readToken n {}
        match t with
        | .operator ")" =>
          match plainText? w with
          | some name =>
            if (isName name && !specialBuiltins.contains name) || g.rich then
              readFunction n name
            else throw .badName
          | none => throw .badName
        | t => misreadFor ")" t
      | _, _, _ => misread t
    | t => do
      put t
      let texts := (if origin.text.isEmpty then [] else [origin.text]) ++
        redirs.reverse.map fun r => match r with | .mk _ _ _ text => text
      pure (.simple vars.reverse words.reverse redirs.reverse
        { origin with text := " ".intercalate texts })

def readIf : Nat → Read Command
  | 0 => throw .tooDeep
  | n + 1 => do
    let test ← readBody n "then"
    expect n {} "then"
    let yes ← readBody n "fi"
    let t ← readToken n {}
    match t with
    | .keyword "elif" => do
      let no ← readIf n
      pure (.choice test yes (some no))
    | .keyword "else" => do
      let no ← readBody n "fi"
      expect n {} "fi"
      pure (.choice test yes (some no))
    | .keyword "fi" => pure (.choice test yes none)
    | t => misreadFor "fi" t

def readLoop : Nat → Bool → Read Command
  | 0, _ => throw .tooDeep
  | n + 1, until_ => do
    let test ← readBody n "do"
    expect n {} "do"
    let body ← readBody n "done"
    expect n {} "done"
    pure (.loop until_ test body)

/-- Read the body of a loop over words, which may stand between braces in the rich shell. -/
def readForBody : Nat → Read Command
  | 0 => throw .tooDeep
  | n + 1 => do
    let t ← readToken n .all
    match t, g.rich with
    | .keyword "do", _ => do
      let body ← readBody n "done"
      expect n {} "done"
      pure body
    | .keyword "\x7b", true => do
      let body ← readBody n "\x7d"
      expect n {} "\x7d"
      pure body
    | t, _ => misreadFor "do" t

/-- Read the words of a loop behind its name, if there are any, with how they are written. -/
def readForList : Nat → Read (Option (List Word) × String)
  | 0 => throw .tooDeep
  | n + 1 => do
    let t ← readToken n .all
    match t with
    | .keyword "in" => do
      let (ws, text) ← readForWords n [] []
      pure (some ws, text)
    | .operator ";" => pure (none, "\"$@\"")
    | t => do
      put t
      pure (none, "\"$@\"")

def readFor : Nat → Read Command
  | 0 => throw .tooDeep
  | n + 1 => do
    let t ← readToken n {}
    match t with
    | .word w q => do
      let name := (plainText? w).getD ""
      if !g.rich && (q || !isName name) then throw .badLoop
      let (words, text) ← readForList n
      let body ← readForBody n
      pure (.each (literal w) words body ("for " ++ name ++ " in " ++ text))
    | .operator "(" =>
      if g.rich then do
        let s ← get
        let first := s.rest.drop 1
        setRest first
        let (a, _) ← readParts n (.upTo [';'] true) [] false
        let s ← get
        let second := s.rest.drop 1
        setRest second
        let (b, _) ← readParts n (.upTo [';'] true) [] false
        let t ← get
        let third := t.rest.drop 1
        setRest third
        let (c, _) ← readParts n (.arithmetic 0) [] false
        let u ← get
        let head := "for ((" ++ writtenExpression (textBetween first s.rest) ++ "; " ++
          writtenExpression (textBetween second t.rest) ++ "; " ++
          writtenExpression ((textBetween third u.rest).dropEnd 2).toString ++ "))"
        let t ← readToken n .all
        match t with
        | .operator ";" => pure ()
        | t => put t
        let body ← readForBody n
        pure (.count a b c body head)
      else throw .badLoop
    | t => if g.rich then misread t else throw .badLoop

def readMenu : Nat → Read Command
  | 0 => throw .tooDeep
  | n + 1 => do
    let t ← readToken n {}
    match t with
    | .word w _ => do
      let (words, text) ← readForList n
      let body ← readForBody n
      let name := literal w
      pure (.menu name words body ("select " ++ name ++ " in " ++ text))
    | t => misread t

def readForWords : Nat → List Word → List String → Read (List Word × String)
  | 0, _, _ => throw .tooDeep
  | n + 1, acc, texts => do
    let t ← readToken n {}
    match t with
    | .word w _ => do
      let s ← get
      readForWords n (w :: acc) (s.latest :: texts)
    | .operator "\n" => do
      readBodies n
      pure (acc.reverse, " ".intercalate texts.reverse)
    | .operator ";" => pure (acc.reverse, " ".intercalate texts.reverse)
    | t => misread t

def readCase : Nat → Read Command
  | 0 => throw .tooDeep
  | n + 1 => do
    let t ← readToken n {}
    match t with
    | .word w _ => do
      let s ← get
      expect n .all "in"
      let t ← readToken n .forKeyword
      let branches ← readBranches n t []
      pure (.select w branches ("case " ++ s.latest ++ " in"))
    | t => misreadFor "word" t

/-- Read the branches of a choice, of which the first token has been read. -/
def readBranches : Nat → Token → List Branch → Read (List Branch)
  | 0, _, _ => throw .tooDeep
  | n + 1, t, acc =>
    match t with
    | .keyword "esac" => pure acc.reverse
    | t => do
      let t ← match t with
        | .operator "(" => readToken n {}
        | t => pure t
      let (patterns, text) ← readPatterns n t [] []
      let body ← readList n true true none
      let t ← readToken n .forKeyword
      let goOn (e : BranchEnd) : Read (List Branch) := do
        let t ← readToken n .forKeyword
        readBranches n t (.mk patterns text body e :: acc)
      match t with
      | .keyword "esac" => pure (.mk patterns text body .stop :: acc).reverse
      | .operator ";;" => goOn .stop
      | .operator ";&" => goOn .fallThrough
      | .operator ";;&" => goOn .testNext
      | t => misreadFor ";;" t

/-- Read alternative patterns, of which the first has been read as a token. -/
def readPatterns : Nat → Token → List Word → List String → Read (List Word × String)
  | 0, _, _, _ => throw .tooDeep
  | n + 1, t, acc, texts => do
    let w : Word ← match t with
      | .word w _ => pure w
      | .keyword k => pure [Part.plain k]
      | t => misreadFor ")" t
    let s ← get
    let texts := s.latest :: texts
    let sep ← readToken n {}
    match sep with
    | .operator "|" => do
      let t ← readToken n {}
      readPatterns n t (w :: acc) texts
    | .operator ")" => pure ((w :: acc).reverse, " | ".intercalate texts.reverse)
    | t => misreadFor ")" t

def readConditionOr : Nat → Read Condition
  | 0 => throw .tooDeep
  | n + 1 => do
    let a ← readConditionAnd n
    let t ← readToken n { newlines := true }
    match t with
    | .operator "||" => do
      let b ← readConditionOr n
      pure (.or a b)
    | t => do
      put t
      pure a

def readConditionAnd : Nat → Read Condition
  | 0 => throw .tooDeep
  | n + 1 => do
    let a ← readConditionTerm n
    let t ← readToken n { newlines := true }
    match t with
    | .operator "&&" => do
      let b ← readConditionAnd n
      pure (.and a b)
    | t => do
      put t
      pure a

def readConditionTerm : Nat → Read Condition
  | 0 => throw .tooDeep
  | n + 1 => do
    let t ← readToken n { newlines := true }
    match t with
    | .operator "(" => do
      let c ← readConditionOr n
      let t ← readToken n { newlines := true }
      match t with
      | .operator ")" => pure c
      | t => misread t
    | .word [.plain "!"] false => do
      let c ← readConditionTerm n
      pure (.not c)
    | .word [.plain "]]"] false => misreadTest "" t
    | .word w _ => do
      let left := (← get).latest
      let t ← readToken n {}
      match t with
      | .redirection .usual "<" | .redirection .usual ">" => do
        let t' ← readToken n {}
        match t' with
        | .word v _ => do
          let right := (← get).latest
          pure (.binary w t.name v (left ++ " " ++ t.name ++ " " ++ right))
        | t' => misread t'
      | .word [.plain "]]"] false => do
        put t
        pure (.word w ("-n " ++ left))
      | .word v q => do
        let op := (plainText? v).getD ""
        if !q && conditionOperators.contains op then
          if op == "=~" then do
            modify fun s => { s with rest := s.rest.dropWhile isBlank }
            let s ← get
            let (v, _) ← readParts n (.regex 0) [] false
            let t ← get
            pure (.binary w op v (left ++ " =~ " ++ textBetween s.rest t.rest))
          else do
            let before ← get
            set { before with groups := true }
            let t ← readToken n {}
            modify fun s => { s with groups := before.groups }
            match t with
            | .word v _ => do
              let right := (← get).latest
              if (plainText? v) == some "]]" && right == "]]" then
                misreadTest "unexpected argument \x60]]\x27 to conditional binary operator" t
              pure (.binary w op v (left ++ " " ++ op ++ " " ++ right))
            | t => misread t
        else
          match plainText? w with
          | some u =>
            if isConditionTest u then do
              let right := (← get).latest
              pure (.unary u v (u ++ " " ++ right))
            else misreadTest "conditional binary operator expected" t
          | none => misreadTest "conditional binary operator expected" t
      | .finish =>
        misreadTest "unexpected token \x60newline\x27, conditional binary operator expected"
          (.word [.plain left] false)
      | t => do
        put t
        pure (.word w ("-n " ++ left))
    | t => misread t
where
  isBlank (c : Char) : Bool := c == ' ' || c == '\t'

end

/-- The parts of a text that is expanded but otherwise as quoted. -/
def partsOfText (text : String) : Word :=
  match (readParts g (12 * text.length + 400) .lines [] false).run { rest := text.toList } with
  | .ok ((ps, _), _) => [.quoted ps]
  | .error _ => [.fixed text]

/-- What came of reading a complete line of commands. -/
structure Complete where
  command : Option Command
  rest : List Char
  /-- Whether the end of the text was seen. -/
  atEnd : Bool
  /-- Whether there was nothing more. -/
  isNothing : Bool
  bodies : List (Nat × Lines)
  counter : Nat
  /-- The lines with redirections whose marks were missing, and the marks. -/
  unmarked : List (Nat × String)
  /-- The line on which the rest begins. -/
  line : Nat

/-- Read a complete line of commands from the front of a text that begins on some line. -/
def readComplete (counter line : Nat) (text : List Char) : Except Misreading Complete := do
  let fuel := 12 * text.length + 400
  let lastLine := line + text.count '\n'
  let isClosed := (text.getLast?.getD '\n') == '\n'
  let (c, s) ← (readList g fuel false false none).run
    { rest := text, counter := counter, groups := g.groups
      lastLine := lastLine
      endLine := if isClosed || !g.rich then lastLine else lastLine + 1 }
  let atEnd := match s.pushed with
    | some .finish => true
    | _ => false
  .ok { command := c, rest := s.rest, atEnd := atEnd, isNothing := c.isNone && atEnd
        bodies := s.bodies, counter := s.counter, unmarked := s.unmarked.reverse
        line := s.lastLine - s.rest.count '\n' }

end Reading

end StreamSupervisor.Shell
