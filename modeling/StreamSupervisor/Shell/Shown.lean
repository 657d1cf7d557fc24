import StreamSupervisor.Shell.Tree

/-! # Commands as texts

Commands as the rich shell shows them. Within functions every command has a line of its own,
and what belongs to another command is indented; elsewhere lists stay on one line.
-/

namespace StreamSupervisor.Shell

/-- How commands are laid out. -/
structure Layout where
  /-- What the lines that a redirection takes look like. -/
  lines : Nat → String
  isFunction : Bool := false
  /-- Whether all lines are indented alike, by one blank. -/
  isFlat : Bool := false

/-- The beginning of a new line. -/
def Layout.newLine (l : Layout) (depth : Nat) : String :=
  "\n" ++ (if l.isFlat then " " else String.ofList (List.replicate (4 * depth) ' '))

/-- A text with a semicolon behind it, unless something else divides it from what follows. -/
def closed (text : String) : String :=
  if text.endsWith "&" || text.endsWith "\n" then text else text ++ ";"

/-- Redirections as they are written, with the lines that they take behind them. -/
def Layout.shownRedirections (l : Layout) (rs : List Redirection) : String :=
  String.join (rs.map fun r => match r with | .mk _ _ _ text => " " ++ text) ++
    lines rs true
where
  lines : List Redirection → Bool → String
    | [], _ => ""
    | .mk _ .lines [.fixed number] _ :: rest, isFirst =>
      (if isFirst then "\n" else "") ++ l.lines (number.toNat?.getD 0) ++ lines rest false
    | _ :: rest, isFirst => lines rest isFirst

/-- How a condition binds, so that brackets stand only where they are needed. -/
def Condition.rank : Condition → Nat
  | .or _ _ => 0
  | .and _ _ => 1
  | _ => 2

def Condition.shown (least : Nat) (c : Condition) : String :=
  let text := match c with
    | .word _ text | .unary _ _ text | .binary _ _ _ text => text
    | .not c => "! " ++ c.shown 2
    | .and a b => a.shown 1 ++ " && " ++ b.shown 1
    | .or a b => a.shown 0 ++ " || " ++ b.shown 0
  if c.rank < least then "( " ++ text ++ " )" else text

/-- Whether a list of commands ends with one in the background. -/
def endsAside : Command → Bool
  | .background _ | .pipeline _ true => true
  | .sequence _ b => endsAside b
  | _ => false

mutual

/-- A command as it is shown, where the lines after its first are so far indented. -/
def shownCommand (l : Layout) (depth : Nat) : Command → String
  | .simple _ _ rs origin =>
    origin.text ++ Layout.shownRedirections.lines l rs true
  | .pipeline cs aside => shownPipeline l depth cs ++ (if aside then " &" else "")
  | .not c => "! " ++ shownCommand l depth c
  | .both a b => shownCommand l depth a ++ " && " ++ shownCommand l depth b
  | .either a b => shownCommand l depth a ++ " || " ++ shownCommand l depth b
  | .sequence a b =>
    let first := shownCommand l depth a
    let gap := if endsAside a then " "
      else if l.isFunction then l.newLine depth
      else if first.endsWith "\n" then "" else " "
    (if endsAside a then first else closed first) ++ gap ++ shownCommand l depth b
  | .background c => shownCommand l depth c ++ " &"
  | .group c =>
    if l.isFunction then
      "\x7b " ++ l.newLine (depth + 1) ++ shownCommand l (depth + 1) c ++ l.newLine depth ++ "\x7d"
    else "\x7b " ++ closed (shownCommand l depth c) ++ " \x7d"
  | .subshell c rs => "( " ++ shownCommand l depth c ++ " )" ++ l.shownRedirections rs
  | .redirected c rs => shownCommand l depth c ++ l.shownRedirections rs
  | .choice test yes none =>
    "if " ++ closed (shownCommand l depth test) ++ " then" ++ l.newLine (depth + 1) ++
      closed (shownCommand l (depth + 1) yes) ++ l.newLine depth ++ "fi"
  | .choice test yes (some no) =>
    "if " ++ closed (shownCommand l depth test) ++ " then" ++ l.newLine (depth + 1) ++
      closed (shownCommand l (depth + 1) yes) ++ l.newLine depth ++ "else" ++
      l.newLine (depth + 1) ++ closed (shownCommand l (depth + 1) no) ++ l.newLine depth ++ "fi"
  | .loop until_ test body =>
    (if until_ then "until " else "while ") ++ closed (shownCommand l depth test) ++ " do" ++
      l.newLine (depth + 1) ++ closed (shownCommand l (depth + 1) body) ++ l.newLine depth ++
      "done"
  | .each _ _ body head | .menu _ _ body head =>
    head ++ ";" ++ l.newLine depth ++ "do" ++ l.newLine (depth + 1) ++
      closed (shownCommand l (depth + 1) body) ++ l.newLine depth ++ "done"
  | .count _ _ _ body head =>
    head ++ l.newLine depth ++ "do" ++ l.newLine (depth + 1) ++
      closed (shownCommand l (depth + 1) body) ++ l.newLine depth ++ "done"
  | .select _ branches head =>
    head ++ " " ++ shownBranches l (depth + 1) branches ++ l.newLine depth ++ "esac"
  | .define name body => "function " ++ name ++ " () " ++ l.newLine depth ++ shownWhole l depth body
  | .calculate _ text => "((" ++ text ++ "))"
  | .condition c => "[[ " ++ c.shown 0 ++ " ]]"
  | .beside name c => "coproc " ++ name ++ " " ++ shownCommand l depth c
  | .timed isPlain c => (if isPlain then "time -p " else "time ") ++ shownCommand l depth c

/-- The body of a function, which is shown between braces even if it has none. -/
def shownWhole (l : Layout) (depth : Nat) : Command → String
  | .group c =>
    "\x7b " ++ l.newLine (depth + 1) ++ shownCommand l (depth + 1) c ++ l.newLine depth ++ "\x7d"
  | .redirected (.group c) rs =>
    "\x7b " ++ l.newLine (depth + 1) ++ shownCommand l (depth + 1) c ++ l.newLine depth ++
      "\x7d" ++ l.shownRedirections rs
  | c =>
    "\x7b " ++ l.newLine (depth + 1) ++ shownCommand l (depth + 1) c ++ l.newLine depth ++ "\x7d"

def shownPipeline (l : Layout) (depth : Nat) : List Command → String
  | [] => ""
  | [c] => shownCommand l depth c
  | c :: rest => shownCommand l depth c ++ " | " ++ shownPipeline l depth rest

def shownBranches (l : Layout) (depth : Nat) : List Branch → String
  | [] => ""
  | .mk _ text body ends :: rest =>
    l.newLine depth ++ text ++ ")" ++ shownAction l (depth + 1) body ++ l.newLine depth ++
      (match ends with
        | .stop => ";;"
        | .fallThrough => ";&"
        | .testNext => ";;&") ++ shownBranches l depth rest

def shownAction (l : Layout) (depth : Nat) : Option Command → String
  | none => "\n"
  | some c => l.newLine depth ++ shownCommand l depth c

end

/-- The body of a function as programs are handed it. -/
def shownBody (lines : Nat → String) (body : Command) : String :=
  let l : Layout := { lines := lines, isFunction := true, isFlat := true }
  let (c, rs) := match body with
    | .group c => (c, [])
    | .redirected (.group c) rs => (c, rs)
    | c => (c, [])
  "\x7b  " ++ shownCommand l 1 c ++ "\n\x7d" ++ l.shownRedirections rs

/-- A function as it is defined. -/
def shownFunction (lines : Nat → String) (name : String) (body : Command) : String :=
  name ++ " () \n" ++ shownWhole { lines := lines, isFunction := true } 0 body

end StreamSupervisor.Shell
