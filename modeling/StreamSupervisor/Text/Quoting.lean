import StreamSupervisor.Machine.Bytes

/-! # Quoting

Texts as they are shown, so that a shell that reads them finds the same texts again.
-/

namespace StreamSupervisor.Quoting

open Machine

/-- A text in single quotes, so that it is read as it is. -/
def single (value : String) : String :=
  "'" ++ String.intercalate "'\\''" (value.splitOn "'") ++ "'"

/-- A text in single quotes, where the single quotes in it stand between double ones. -/
def singleDoubled (value : String) : String :=
  let rec go : Nat → List Char → String
    | 0, _ => ""
    | n + 1, cs =>
      let run := cs.takeWhile (· != '\x27')
      let marks := (cs.drop run.length).takeWhile (· == '\x27')
      let rest := cs.drop (run.length + marks.length)
      "'" ++ String.ofList run ++ "'" ++
        (if marks.isEmpty then "" else "\"" ++ String.ofList marks ++ "\"") ++
        (if rest.isEmpty then "" else go n rest)
  go (value.length + 1) value.toList

/-- Whether a character has no shape of its own, or none that is known everywhere. -/
def isUnseen (c : Char) : Bool := decide (c.toNat < 32) || decide (127 ≤ c.toNat)

/-- A character between quotes with a dollar sign in front. -/
def ansiEscape (c : Char) : String :=
  match c with
  | '\x1b' => "\\E"
  | '\x07' => "\\a"
  | '\x08' => "\\b"
  | '\x0b' => "\\v"
  | '\x0c' => "\\f"
  | '\t' => "\\t"
  | '\n' => "\\n"
  | '\r' => "\\r"
  | '\\' => "\\\\"
  | '\x27' => "\\'"
  | c =>
    if isUnseen c then
      let ds := digits 8 c.toNat
      "\\" ++ String.ofList (List.replicate (3 - ds.length) '0') ++ ds
    else c.toString

/-- A text between quotes with a dollar sign in front. -/
def ansi (value : String) : String :=
  "$'" ++ String.join (value.toList.map ansiEscape) ++ "'"

/-- A text in the kind of quotes that it needs. -/
def reusable (value : String) : String :=
  if value.any isUnseen then ansi value
  else if value == "'" then "\\'"
  else single value

/-- Whether a character means something to a shell, given the one before it. -/
def isSign (signs : String) (before : Option Char) (c : Char) : Bool :=
  signs.toList.contains c || (c == '#' && before.isNone) ||
    (c == '~' && (before.isNone || before == some ':' || before == some '='))

/-- A text with a backslash before each special character. -/
def escaped (value : String) : String :=
  if value.isEmpty then "''"
  else if value.any isUnseen then ansi value
  else
    let rec go : Option Char → List Char → List Char
      | _, [] => []
      | before, c :: rest =>
        if isSign " !\"$&'()*,;<>?[\\]^\x60\x7b|\x7d" before c then '\\' :: c :: go (some c) rest
        else c :: go (some c) rest
    String.ofList (go none value.toList)

/-- A text between double quotes. -/
def double (value : String) : String :=
  if value.any isUnseen then ansi value
  else
    "\"" ++ String.ofList (value.toList.flatMap fun c =>
      if "\"$\\\x60".toList.contains c then ['\\', c] else [c]) ++ "\""

/-- Whether a text holds anything that means something to a shell. -/
def hasSigns (value : String) : Bool :=
  let rec go : Option Char → List Char → Bool
    | _, [] => false
    | before, c :: rest =>
      isSign " \t\n'\"\\|&;()<>!\x7b\x7d*[]?^$\x60" before c || go (some c) rest
  go none value.toList

/-- A text in quotes only if it needs them. -/
def ifNeeded (value : String) : String :=
  if value.any isUnseen then ansi value
  else if hasSigns value then single value
  else value

/-- A word as it is shown before a command runs: only signs that a shell minds need quotes. -/
def traced (value : String) : String :=
  if value.isEmpty then "''"
  else if value == "'" then "\\'"
  else if hasSigns value then single value
  else ifNeeded value

/-- Whether a character may stand between double quotes as well as between single ones. -/
def isHarmless (c : Char) : Bool :=
  isNameChar c || "%+,-./:=@]\x7b\x7d \x27".toList.contains c

/-- A text in single quotes, out of which the characters without a shape are taken. -/
def stretches (value : String) : String :=
  let rec go : Bool → List Char → String
    | true, [] => "'"
    | false, [] => ""
    | inside, c :: rest =>
      if isUnseen c then
        (if inside then "'" else "") ++ "$'" ++ ansiEscape c ++ "'" ++ go false rest
      else if c == '\x27' then
        (if inside then "'" else "") ++ "\\'" ++ go false rest
      else (if inside then "" else "'") ++ c.toString ++ go true rest
  go true value.toList |> fun s => "'" ++ s

/-- A text in quotes, as names stand in messages. -/
def shown (value : String) : String :=
  if value.any isUnseen then stretches value
  else if value.contains '\x27' && value.all isHarmless then "\"" ++ value ++ "\""
  else single value

end StreamSupervisor.Quoting
