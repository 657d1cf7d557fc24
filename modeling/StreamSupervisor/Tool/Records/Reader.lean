import StreamSupervisor.Tool.Format
import StreamSupervisor.Tool.Records.Pattern
import StreamSupervisor.Tool.Records.Tree

/-! # Reading scripts for records

Cutting the text of a script into tokens, and building its rules, statements and
expressions from them.
-/

namespace StreamSupervisor.Tool.Records

open Machine

/-! ## Tokens -/

inductive Token where
  | number (f : Float)
  | text (s : String)
  | pattern (s : String)
  | name (s : String)
  /-- A name with an opening parenthesis right behind it. -/
  | callee (s : String)
  | builtin (s : String)
  | keyword (s : String)
  | mark (s : String)
  | newline
deriving BEq

def keywords : List String :=
  ["BEGIN", "END", "function", "func", "if", "else", "while", "for", "do", "break", "continue",
    "next", "nextfile", "exit", "return", "delete", "in", "getline", "print", "printf"]

def builtins : List String :=
  ["length", "substr", "index", "split", "sub", "gsub", "match", "sprintf", "sin", "cos",
    "atan2", "exp", "log", "sqrt", "int", "rand", "srand", "tolower", "toupper", "system",
    "close", "fflush"]

/-- Marks with more than one character, longer ones first. -/
def longMarks : List String :=
  ["&&", "||", "==", "!=", "<=", ">=", "!~", "++", "--", "+=", "-=", "*=", "/=", "%=", "^=", ">>"]

/-- What stands behind a backslash in a text; an unknown mark keeps the backslash. -/
def escaped (cs : List Char) : List Char × List Char :=
  match escape? cs, cs with
  | some (c, rest), _ => ([c], rest)
  | none, c :: rest => (['\\', c], rest)
  | none, [] => (['\\'], [])

/-- A text up to its closing mark. -/
def quotedText : Nat → List Char → List Char → Option (String × List Char)
  | 0, _, _ => none
  | _ + 1, [], _ => none
  | n + 1, '\\' :: '\n' :: rest, acc => quotedText n rest acc
  | n + 1, '\\' :: rest, acc =>
    let (cs, rest) := escaped rest
    quotedText n rest (cs.reverse ++ acc)
  | n + 1, c :: rest, acc =>
    if c == '"' then some (String.ofList acc.reverse, rest)
    else if c == '\n' then none
    else quotedText n rest (c :: acc)

/-- A pattern up to its closing slash. -/
def patternText : Nat → List Char → List Char → Option (String × List Char)
  | 0, _, _ => none
  | n + 1, '\\' :: '/' :: rest, acc => patternText n rest ('/' :: acc)
  | n + 1, '\\' :: c :: rest, acc => patternText n rest (c :: '\\' :: acc)
  | n + 1, c :: rest, acc =>
    if c == '/' then some (String.ofList acc.reverse, rest)
    else if c == '\n' then none
    else patternText n rest (c :: acc)
  | _ + 1, [], _ => none

def floatOf (d : Format.Decimal) : Float :=
  let f := Float.ofScientific d.digits true d.scale
  if d.negative then -f else f

/-- Whether an operand may end with a token, so that a slash behind it divides. -/
def endsOperand : Token → Bool
  | .number _ | .text _ | .pattern _ | .name _ | .builtin _ => true
  | .mark s => [")", "]", "$", "++", "--"].contains s
  | _ => false

def tokens : Nat → List Char → List Token → Option (List Token)
  | 0, _, _ => none
  | _ + 1, [], acc => some acc.reverse
  | n + 1, c :: rest, acc =>
    if c == ' ' || c == '\t' || c == '\r' then tokens n rest acc
    else if c == '\n' then tokens n rest (.newline :: acc)
    else if c == '#' then tokens n (rest.dropWhile (· != '\n')) acc
    else if c == '\\' then
      match rest with
      | '\n' :: rest => tokens n rest acc
      | _ => none
    else if c == '"' then
      match quotedText (rest.length + 1) rest [] with
      | some (s, rest) => tokens n rest (.text s :: acc)
      | none => none
    else if c == '/' && !(acc.head?.any endsOperand) then
      match patternText (rest.length + 1) rest [] with
      | some (s, rest) => tokens n rest (.pattern s :: acc)
      | none => none
    else if isDigit c || c == '.' && rest.head?.any isDigit then
      match Format.readDecimal (c :: rest) with
      | some (d, rest) => tokens n rest (.number (floatOf d) :: acc)
      | none => none
    else if isNameStart c then
      let word := String.ofList ((c :: rest).takeWhile isNameChar)
      let after := (c :: rest).dropWhile isNameChar
      let token : Token :=
        if keywords.contains word then .keyword word
        else if builtins.contains word then .builtin word
        else if after.head? == some '(' then .callee word
        else .name word
      tokens n after (token :: acc)
    else
      match longMarks.find? fun m => (c :: rest).take m.length == m.toList with
      | some m =>
        tokens n ((c :: rest).drop m.length) (.mark m :: acc)
      | none =>
        if "{}()[];,+-*/%^!<>|?:~$=".toList.contains c then
          tokens n rest (.mark c.toString :: acc)
        else none

/-! ## Expressions -/

abbrev Read := StateT (List Token) Option

def peek? : Read (Option Token) := do
  let ts ← get
  pure ts.head?

def skip : Read Unit := modify (·.drop 1)

def accept (m : String) : Read Bool := do
  if (← peek?) == some (.mark m) then do
    skip
    pure true
  else pure false

def expect (m : String) : Read Unit := do
  if !(← accept m) then failure

def acceptWord (w : String) : Read Bool := do
  if (← peek?) == some (.keyword w) then do
    skip
    pure true
  else pure false

def skipNewlines : Read Unit := modify fun ts => ts.dropWhile (· == .newline)

/-- What an expression may not hold where it stands: a membership, or a comparison upward. -/
structure Limits where
  noIn : Bool := false
  noMore : Bool := false

def isTarget : Expr → Bool
  | .name _ | .element .. | .field _ => true
  | _ => false

/-- Whether an operand may begin with a token. -/
def beginsOperand : Token → Bool
  | .number _ | .text _ | .pattern _ | .name _ | .callee _ | .builtin _ => true
  | .mark s => ["$", "!", "(", "-", "+", "++", "--"].contains s
  | _ => false

mutual

def readExpr (l : Limits) : Nat → Read Expr
  | 0 => failure
  | n + 1 => do
    let a ← readOr l n
    match ← peek? with
    | some (.mark "?") => do
      skip
      skipNewlines
      let b ← readExpr l n
      skipNewlines
      expect ":"
      skipNewlines
      let c ← readExpr l n
      pure (.choice a b c)
    | some (.mark op) =>
      if ["=", "+=", "-=", "*=", "/=", "%=", "^="].contains op && isTarget a then do
        skip
        skipNewlines
        let v ← readExpr l n
        pure (.assign op a v)
      else pure a
    | _ => pure a

def readOr (l : Limits) : Nat → Read Expr
  | 0 => failure
  | n + 1 => do
    let a ← readAnd l n
    if ← accept "||" then do
      skipNewlines
      let b ← readOr l n
      pure (.or a b)
    else pure a

def readAnd (l : Limits) : Nat → Read Expr
  | 0 => failure
  | n + 1 => do
    let a ← readIn l n
    if ← accept "&&" then do
      skipNewlines
      let b ← readAnd l n
      pure (.and a b)
    else pure a

def readIn (l : Limits) : Nat → Read Expr
  | 0 => failure
  | n + 1 => do
    let a ← readMatch l n
    moreIn l n a

def moreIn (l : Limits) : Nat → Expr → Read Expr
  | 0, _ => failure
  | n + 1, a => do
    if !l.noIn && (← peek?) == some (.keyword "in") then do
      skip
      match ← peek? with
      | some (.name array) => do
        skip
        moreIn l n (.isIn [a] array)
      | _ => failure
    else pure a

def readMatch (l : Limits) : Nat → Read Expr
  | 0 => failure
  | n + 1 => do
    let a ← readCompare l n
    moreMatch l n a

def moreMatch (l : Limits) : Nat → Expr → Read Expr
  | 0, _ => failure
  | n + 1, a => do
    match ← peek? with
    | some (.mark "~") => do
      skip
      let b ← readCompare l n
      moreMatch l n (.isMatch false a b)
    | some (.mark "!~") => do
      skip
      let b ← readCompare l n
      moreMatch l n (.isMatch true a b)
    | _ => pure a

def readCompare (l : Limits) : Nat → Read Expr
  | 0 => failure
  | n + 1 => do
    let a ← readConcat l n
    moreCompare l n a

def moreCompare (l : Limits) : Nat → Expr → Read Expr
  | 0, _ => failure
  | n + 1, a => do
    match ← peek? with
    | some (.mark op) =>
      if ["<", "<=", "==", "!=", ">="].contains op || op == ">" && !l.noMore then do
        skip
        let b ← readConcat l n
        moreCompare l n (.compare op a b)
      else pure a
    | _ => pure a

def readConcat (l : Limits) : Nat → Read Expr
  | 0 => failure
  | n + 1 => do
    let a ← readSum n
    moreConcat l n a

def moreConcat (l : Limits) : Nat → Expr → Read Expr
  | 0, _ => failure
  | n + 1, a => do
    match ← get with
    | .mark "|" :: .keyword "getline" :: rest => do
      set rest
      let target ← readTarget? n
      moreConcat l n (.fetch .program target (some a))
    | t :: _ =>
      let isSign := t == .mark "-" || t == .mark "+" || t == .mark "!"
      if beginsOperand t && !isSign then do
        let b ← readSum n
        moreConcat l n (.concat a b)
      else pure a
    | [] => pure a

def readSum : Nat → Read Expr
  | 0 => failure
  | n + 1 => do
    let a ← readProduct n
    moreSum n a

def moreSum : Nat → Expr → Read Expr
  | 0, _ => failure
  | n + 1, a => do
    match ← peek? with
    | some (.mark "+") => do
      skip
      let b ← readProduct n
      moreSum n (.arith '+' a b)
    | some (.mark "-") => do
      skip
      let b ← readProduct n
      moreSum n (.arith '-' a b)
    | _ => pure a

def readProduct : Nat → Read Expr
  | 0 => failure
  | n + 1 => do
    let a ← readUnary n
    moreProduct n a

def moreProduct : Nat → Expr → Read Expr
  | 0, _ => failure
  | n + 1, a => do
    match ← peek? with
    | some (.mark "*") => do
      skip
      let b ← readUnary n
      moreProduct n (.arith '*' a b)
    | some (.mark "/") => do
      skip
      let b ← readUnary n
      moreProduct n (.arith '/' a b)
    | some (.mark "%") => do
      skip
      let b ← readUnary n
      moreProduct n (.arith '%' a b)
    | _ => pure a

def readUnary : Nat → Read Expr
  | 0 => failure
  | n + 1 => do
    if ← accept "!" then do
      let e ← readUnary n
      pure (.not e)
    else if ← accept "-" then do
      let e ← readUnary n
      pure (.negative e)
    else if ← accept "+" then do
      let e ← readUnary n
      pure (.positive e)
    else readPower n

def readPower : Nat → Read Expr
  | 0 => failure
  | n + 1 => do
    let a ← readPostfix n
    if ← accept "^" then do
      let b ← if (← peek?) == some (.mark "-") || (← peek?) == some (.mark "+") ||
          (← peek?) == some (.mark "!") then readUnary n else readPower n
      pure (.arith '^' a b)
    else pure a

def readPostfix : Nat → Read Expr
  | 0 => failure
  | n + 1 => do
    let a ← readPrimary n
    if isTarget a then
      if ← accept "++" then pure (.count true false a)
      else if ← accept "--" then pure (.count false false a)
      else pure a
    else pure a

/-- Something that can be assigned to, if one stands there. -/
def readTarget? : Nat → Read (Option Expr)
  | 0 => failure
  | n + 1 => do
    match ← peek? with
    | some (.name _) | some (.mark "$") => do
      let e ← readPrimary n
      pure (some e)
    | _ => pure none

/-- Expressions with commas between them, up to a closing mark. -/
def readList (close : String) : Nat → Read (List Expr)
  | 0 => failure
  | n + 1 => do
    skipNewlines
    if ← accept close then pure []
    else do
      let e ← readExpr {} n
      skipNewlines
      if ← accept "," then do
        skipNewlines
        let rest ← readList close n
        if rest.isEmpty then failure else pure (e :: rest)
      else do
        expect close
        pure [e]

def readPrimary : Nat → Read Expr
  | 0 => failure
  | n + 1 => do
    match ← get with
    | [] => failure
    | t :: rest => do
      set rest
      match t with
      | .number f => pure (.number f)
      | .text s => pure (.text s)
      | .pattern s =>
        match readPattern s with
        | .ok r => pure (.pattern r)
        | .error _ => failure
      | .name v =>
        if ← accept "[" then do
          let subs ← readList "]" n
          if subs.isEmpty then failure else pure (.element v subs)
        else pure (.name v)
      | .callee f => do
        expect "("
        let args ← readList ")" n
        pure (.call f args)
      | .builtin f =>
        if ← accept "(" then do
          let args ← readList ")" n
          pure (.builtin f args)
        else if f == "length" then pure (.builtin f [])
        else failure
      | .mark "$" => do
        if ← accept "++" then do
          let e ← readPrimary n
          pure (.field (.count true true e))
        else if ← accept "--" then do
          let e ← readPrimary n
          pure (.field (.count false true e))
        else if ← accept "-" then do
          let e ← readPrimary n
          pure (.field (.negative e))
        else do
          let e ← readPrimary n
          pure (.field e)
      | .mark "++" => do
        let e ← readPrimary n
        if isTarget e then pure (.count true true e) else failure
      | .mark "--" => do
        let e ← readPrimary n
        if isTarget e then pure (.count false true e) else failure
      | .mark "(" => do
        let es ← readList ")" n
        match es with
        | [] => failure
        | [e] => pure (.grouped e)
        | subs =>
          /- Several expressions stand together only before a membership. -/
          match ← get with
          | .keyword "in" :: .name array :: rest => do
            set rest
            pure (.isIn subs array)
          | _ => failure
      | .mark "-" => do
        let e ← readUnary n
        pure (.negative e)
      | .mark "+" => do
        let e ← readUnary n
        pure (.positive e)
      | .mark "!" => do
        let e ← readUnary n
        pure (.not e)
      | .keyword "getline" => do
        let target ← readTarget? n
        if ← accept "<" then do
          let e ← readPostfix n
          pure (.fetch .file target (some e))
        else pure (.fetch .inputs target none)
      | _ => failure

end

/-! ## Statements -/

/-- The end of a simple statement. -/
def readEnd : Read Unit := do
  match ← peek? with
  | some (.mark ";") => do
    skip
    skipNewlines
  | some .newline => skipNewlines
  | some (.mark "\x7d") | none => pure ()
  | _ => failure

/-- Expressions to print; they may stand in parentheses. -/
def readPrinted : Nat → Read (List Expr)
  | 0 => failure
  | n + 1 => do
    let limits : Limits := { noMore := true }
    let rec more : Nat → Read (List Expr)
      | 0 => failure
      | k + 1 => do
        let e ← readExpr limits n
        if ← accept "," then do
          skipNewlines
          let rest ← more k
          pure (e :: rest)
        else pure [e]
    match ← peek? with
    | none | some .newline => pure []
    | some (.mark m) =>
      if [";", "\x7d", ">", ">>", "|"].contains m then pure []
      else if m == "(" then do
        /- A list in parentheses, unless the expression goes on behind them. -/
        let saved ← get
        skip
        let inside ← (do
          let es ← readList ")" n
          pure (some es) : Read (Option (List Expr))) <|> pure none
        let isWhole ← match ← peek? with
          | none | some .newline => pure true
          | some (.mark m) => pure ([";", "\x7d", ">", ">>", "|"].contains m)
          | _ => pure false
        match inside, isWhole with
        | some (e :: es), true => pure (e :: es)
        | _, _ => do
          set saved
          more n
      else more n
    | _ => more n

def readDestination (n : Nat) : Read Target := do
  if ← accept ">" then do
    let e ← readExpr {} n
    pure (.file e false)
  else if ← accept ">>" then do
    let e ← readExpr {} n
    pure (.file e true)
  else if ← accept "|" then do
    let e ← readExpr {} n
    pure (.program e)
  else pure .output

/-- A statement that can stand in the head of a loop. -/
def readSimple : Nat → Read Stmt
  | 0 => failure
  | n + 1 => do
    match ← get with
    | .keyword "print" :: rest => do
      set rest
      let es ← readPrinted n
      let t ← readDestination n
      pure (.print es t)
    | .keyword "printf" :: rest => do
      set rest
      let es ← readPrinted n
      let t ← readDestination n
      if es.isEmpty then failure else pure (.printFormat es t)
    | .keyword "delete" :: .name a :: rest => do
      set rest
      if ← accept "[" then do
        let subs ← readList "]" n
        pure (.delete a (some subs))
      else pure (.delete a none)
    | _ => do
      let e ← readExpr {} n
      pure (.expr e)

mutual

def readStmt : Nat → Read Stmt
  | 0 => failure
  | n + 1 => do
    match ← get with
    | .mark "\x7b" :: rest => do
      set rest
      let ss ← readStmts n
      expect "\x7d"
      modify fun ts => ts.dropWhile fun t => t == .newline || t == .mark ";"
      pure (.block ss)
    | .mark ";" :: rest => do
      set rest
      skipNewlines
      pure (.block [])
    | .keyword "if" :: rest => do
      set rest
      expect "("
      let c ← readExpr {} n
      expect ")"
      skipNewlines
      let a ← readStmt n
      let saved ← get
      modify fun ts => ts.dropWhile fun t => t == .newline || t == .mark ";"
      if ← acceptWord "else" then do
        skipNewlines
        let b ← readStmt n
        pure (.choose c a (some b))
      else do
        set saved
        pure (.choose c a none)
    | .keyword "while" :: rest => do
      set rest
      expect "("
      let c ← readExpr {} n
      expect ")"
      if ← accept ";" then pure (.while c (.block []))
      else do
        skipNewlines
        let body ← readStmt n
        pure (.while c body)
    | .keyword "do" :: rest => do
      set rest
      skipNewlines
      let body ← readStmt n
      modify fun ts => ts.dropWhile fun t => t == .newline || t == .mark ";"
      if !(← acceptWord "while") then failure
      expect "("
      let c ← readExpr {} n
      expect ")"
      readEnd
      pure (.doWhile body c)
    | .keyword "for" :: .mark "(" :: .name v :: .keyword "in" :: .name a :: .mark ")" :: rest => do
      set rest
      skipNewlines
      let body ← readStmt n
      pure (.forEach v a body)
    | .keyword "for" :: rest => do
      set rest
      expect "("
      let start ← if ← accept ";" then pure none else do
        let s ← readSimple n
        expect ";"
        pure (some s)
      skipNewlines
      let c ← if ← accept ";" then pure none else do
        let c ← readExpr {} n
        expect ";"
        pure (some c)
      skipNewlines
      let step ← if ← accept ")" then pure none else do
        let s ← readSimple n
        expect ")"
        pure (some s)
      if ← accept ";" then pure (.loop start c step (.block []))
      else do
        skipNewlines
        let body ← readStmt n
        pure (.loop start c step body)
    | .keyword "next" :: rest => simple rest .next
    | .keyword "nextfile" :: rest => simple rest .nextFile
    | .keyword "break" :: rest => simple rest .break
    | .keyword "continue" :: rest => simple rest .continue
    | .keyword "exit" :: rest => do
      set rest
      let e ← valueBehind n
      readEnd
      pure (.exit e)
    | .keyword "return" :: rest => do
      set rest
      let e ← valueBehind n
      readEnd
      pure (.return e)
    | _ => do
      let s ← readSimple n
      readEnd
      pure s
where
  simple (rest : List Token) (s : Stmt) : Read Stmt := do
    set rest
    readEnd
    pure s
  valueBehind (n : Nat) : Read (Option Expr) := do
    match ← peek? with
    | none | some .newline | some (.mark ";") | some (.mark "\x7d") => pure none
    | _ => do
      let e ← readExpr {} n
      pure (some e)

def readStmts : Nat → Read (List Stmt)
  | 0 => failure
  | n + 1 => do
    modify fun ts => ts.dropWhile fun t => t == .newline || t == .mark ";"
    match ← peek? with
    | none | some (.mark "\x7d") => pure []
    | _ => do
      let s ← readStmt n
      let rest ← readStmts n
      pure (s :: rest)

end

def readBlock (n : Nat) : Read Stmt := do
  expect "\x7b"
  let ss ← readStmts n
  expect "\x7d"
  pure (.block ss)

def readParameters : Nat → Read (List String)
  | 0 => failure
  | n + 1 => do
    skipNewlines
    match ← peek? with
    | some (.mark ")") => do
      skip
      pure []
    | some (.name p) => do
      skip
      skipNewlines
      if ← accept "," then do
        let rest ← readParameters n
        pure (p :: rest)
      else do
        expect ")"
        pure [p]
    | _ => failure

def readRules : Nat → Script → Read Script
  | 0, _ => failure
  | n + 1, s => do
    modify fun ts => ts.dropWhile fun t => t == .newline || t == .mark ";"
    match ← get with
    | [] => pure s
    | .keyword "BEGIN" :: rest => do
      set rest
      let b ← readBlock n
      readRules n { s with rules := s.rules ++ [.first b] }
    | .keyword "END" :: rest => do
      set rest
      let b ← readBlock n
      readRules n { s with rules := s.rules ++ [.last b] }
    | .keyword w :: t :: rest =>
      if w == "function" || w == "func" then do
        let name ← match t with
          | .name f | .callee f => pure f
          | _ => failure
        set rest
        expect "("
        let ps ← readParameters n
        skipNewlines
        let b ← readBlock n
        readRules n { s with functions := s.functions ++ [⟨name, ps, b⟩] }
      else readPatternRule n s
    | .mark "\x7b" :: _ => do
      let b ← readBlock n
      readRules n { s with rules := s.rules ++ [.each none (some b)] }
    | _ => readPatternRule n s
where
  readPatternRule (n : Nat) (s : Script) : Read Script := do
    let p ← readExpr {} n
    let action : Read (Option Stmt) := do
      if (← peek?) == some (.mark "\x7b") then do
        let b ← readBlock n
        pure (some b)
      else do
        readEnd
        pure none
    if ← accept "," then do
      skipNewlines
      let q ← readExpr {} n
      let a ← action
      readRules n { s with rules := s.rules ++ [.range p q a] }
    else do
      let a ← action
      readRules n { s with rules := s.rules ++ [.each (some p) a] }

/-! ## Sound scripts -/

/-- Where a statement stands. -/
structure Place where
  inFunction : Bool := false
  inLoop : Bool := false
  /-- Whether there is a record to go on from. -/
  hasRecord : Bool := false

/-- Whether the leaps of a statement lead somewhere from where it stands. -/
def Stmt.isPlaced : Nat → Place → Stmt → Bool
  | 0, _, _ => false
  | n + 1, p, s =>
    let inside := { p with inLoop := true }
    match s with
    | .choose _ a b => a.isPlaced n p && b.all (·.isPlaced n p)
    | .while _ body | .doWhile body _ | .loop _ _ _ body | .forEach _ _ body =>
      body.isPlaced n inside
    | .block ss => ss.all (·.isPlaced n p)
    | .next | .nextFile => p.hasRecord
    | .return _ => p.inFunction
    | .break | .continue => p.inLoop
    | _ => true

/-- The names in front of a bracket, or behind a membership, and those that stand alone. The
arguments of functions that a script makes itself may be both. -/
structure Uses where
  arrays : List String := []
  alone : List String := []

def Uses.array (u : Uses) (n : String) : Uses := { u with arrays := n :: u.arrays }

mutual

def Expr.uses : Nat → Expr → Uses → Uses
  | 0, _, u => u
  | n + 1, e, u =>
    match e with
    | .number _ | .text _ | .pattern _ => u
    | .name v => { u with alone := v :: u.alone }
    | .element a subs => usesOf n subs (u.array a)
    | .isIn subs a => usesOf n subs (u.array a)
    | .field e | .grouped e | .not e | .negative e | .positive e | .count _ _ e => e.uses n u
    | .assign _ a b | .or a b | .and a b | .isMatch _ a b | .compare _ a b | .concat a b
    | .arith _ a b => b.uses n (a.uses n u)
    | .choice c a b => b.uses n (a.uses n (c.uses n u))
    | .call _ args => usesOf n (args.filter fun a => !(a matches .name _)) u
    | .builtin "split" (s :: .name a :: rest) => usesOf n rest (s.uses n (u.array a))
    | .builtin "length" [.name _] => u
    | .builtin _ args => usesOf n args u
    | .fetch _ a b => usesOf n (a.toList ++ b.toList) u

def usesOf : Nat → List Expr → Uses → Uses
  | 0, _, u => u
  | _ + 1, [], u => u
  | n + 1, e :: es, u => usesOf n es (e.uses n u)

end

def Stmt.uses : Nat → Stmt → Uses → Uses
  | 0, _, u => u
  | n + 1, s, u =>
    let optional (e : Option Expr) (u : Uses) : Uses := usesOf n e.toList u
    let target (t : Target) (u : Uses) : Uses := match t with
      | .output => u
      | .file e _ | .program e => e.uses n u
    match s with
    | .expr e => e.uses n u
    | .print es t | .printFormat es t => target t (usesOf n es u)
    | .choose c a b =>
      let u := a.uses n (c.uses n u)
      match b with
      | some b => b.uses n u
      | none => u
    | .while c body | .doWhile body c => body.uses n (c.uses n u)
    | .loop a c b body =>
      let simple (s : Option Stmt) (u : Uses) : Uses := match s with
        | some s => s.uses n u
        | none => u
      body.uses n (simple b (optional c (simple a u)))
    | .forEach v a body => body.uses n { u.array a with alone := v :: u.alone }
    | .block ss => ss.foldl (fun u s => s.uses n u) u
    | .exit e | .return e => optional e u
    | .delete a subs => usesOf n (subs.getD []) (u.array a)
    | .next | .nextFile | .break | .continue => u

/-- Whether no name is used both as an array and alone. -/
def Uses.agree (u : Uses) : Bool := u.arrays.all fun a => !u.alone.contains a

def hasDoubles : List String → Bool
  | [] => false
  | x :: xs => xs.contains x || hasDoubles xs

/-- Whether a script's names and leaps are in order. -/
def Script.isSound (s : Script) (depth : Nat) : Bool :=
  let placed := s.rules.all fun r => match r with
    | .first a | .last a => a.isPlaced depth {}
    | .each _ a | .range _ _ a => a.all (·.isPlaced depth { hasRecord := true })
  let known := ["FS", "OFS", "RS", "ORS", "NF", "NR", "FNR", "FILENAME", "RSTART", "RLENGTH",
    "SUBSEP", "CONVFMT", "OFMT", "ARGC"]
  let common := s.rules.foldl (fun u r => match r with
    | .first a | .last a => a.uses depth u
    | .each p a =>
      let u := usesOf depth p.toList u
      (a.toList).foldl (fun u a => a.uses depth u) u
    | .range p q a =>
      let u := usesOf depth [p, q] u
      (a.toList).foldl (fun u a => a.uses depth u) u)
    ({ arrays := ["ENVIRON", "ARGV"], alone := known } : Uses)
  let names := s.functions.map (·.name)
  let bodies := s.functions.map fun f => (f, f.body.uses depth {})
  let isSoundFunction (f : Function) (u : Uses) : Bool :=
    f.body.isPlaced depth { inFunction := true } && !hasDoubles f.parameters && u.agree
  let all := bodies.foldl (fun (acc : Uses) (f, u) =>
    let outer (l : List String) : List String := l.filter fun n => !f.parameters.contains n
    { arrays := outer u.arrays ++ acc.arrays, alone := outer u.alone ++ acc.alone }) common
  placed && !hasDoubles names && all.agree && bodies.all fun (f, u) => isSoundFunction f u

/-- The names that are called somewhere in a script's tokens. -/
def calledNames (ts : List Token) : List String :=
  ts.filterMap fun t =>
    match t with
    | .callee f => some f
    | _ => none

/-- Read a script; every function that is called has to be there. -/
def readScript (text : String) : Option Script := do
  let ts ← tokens (text.length + 1) text.toList []
  let (s, _) ← (readRules (20 * ts.length + 100) {}).run ts
  let known := s.functions.map (·.name)
  if (calledNames ts).all known.contains && s.isSound (20 * ts.length + 100) then some s else none

end StreamSupervisor.Tool.Records
