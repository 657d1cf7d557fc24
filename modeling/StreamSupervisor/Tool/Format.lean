import StreamSupervisor.Text.Quoting
import StreamSupervisor.Tool.Calendar
import StreamSupervisor.Tool.Condition
import StreamSupervisor.Tool.Decimal

/-! # Formatted texts

A format is written again and again until the arguments are used up. A number that cannot
be read counts as zero and makes the whole fail in the end; a directive that is not known
ends it at once.
-/

namespace StreamSupervisor.Tool

open Machine

namespace Format

/-- What was written, with which exit code, and whether nothing may follow. -/
structure Writing where
  parts : List String := []
  arguments : List String
  code : Nat := 0
  /-- Whether a directive has used an argument. -/
  used : Bool := false
  ended : Bool := false
  /-- What went wrong, the latest first, each with how many parts were written before it. -/
  troubles : List (Nat × String) := []
  /-- The variables that are told how much was written before them. -/
  counted : List (String × Nat) := []
  /-- The time, in seconds since 1970. -/
  now : Instant := {}

def Writing.text (w : Writing) : String := String.join w.parts.reverse

def emit (w : Writing) (s : String) : Writing := { w with parts := s :: w.parts }

def complainOf (w : Writing) (trouble : String) : Writing :=
  { w with troubles := (w.parts.length, trouble) :: w.troubles }

def next (w : Writing) : Option String × Writing :=
  match w.arguments with
  | a :: rest => (some a, { w with arguments := rest, used := true })
  | [] => (none, { w with used := true })

/-- What stands behind a backslash: the text it means and what follows. -/
inductive Escape where
  | text (s : String) (rest : List Char)
  | ending
  | fault

def octal (most : Nat) (cs : List Char) : Nat × List Char :=
  let ds := (cs.take most).takeWhile (between '0' '7')
  ((takeDigits 8 ds 0 0).1 % 256, cs.drop ds.length)

/-- Read an escape; the flag tells an argument's text from the format. -/
def escape (j : Judge) (inArgument : Bool) : List Char → Escape
  | [] => .text "\\" []
  | c :: rest =>
    let is (d : Char) : Escape := .text d.toString rest
    match c with
    | 'a' => is '\x07'
    | 'b' => is '\x08'
    | 'f' => is '\x0c'
    | 'n' => is '\n'
    | 'r' => is '\r'
    | 't' => is '\t'
    | 'v' => is '\x0b'
    | 'e' => is '\x1b'
    | '\\' => is '\\'
    | '"' => if j == .plainShell && inArgument then .text "\\\"" rest else is '"'
    | 'c' => if inArgument || j == .tool then .ending else .text "\\c" rest
    | 'x' =>
      if j == .plainShell then .text "\\x" rest
      else
        let ds := (rest.take 2).takeWhile fun d => (digitValue? d).any (· < 16)
        if ds.isEmpty then (if j == .tool then .fault else .text "\\x" rest)
        else .text (Char.ofNat (takeDigits 16 ds 0 0).1).toString (rest.drop ds.length)
    | 'u' | 'U' =>
      if j == .plainShell then .text (String.ofList ['\\', c]) rest
      else
        let most := if c == 'u' then 4 else 8
        let ds := (rest.take most).takeWhile fun d => (digitValue? d).any (· < 16)
        if j == .tool && ds.length < most || ds.isEmpty then
          (if j == .tool then .fault else .text (String.ofList ['\\', c]) rest)
        else .text (codedText (takeDigits 16 ds 0 0).1) (rest.drop ds.length)
    | c =>
      if between '0' '7' c then
        let most := if inArgument && c == '0' then 4 else 3
        let (v, after) := octal most (c :: rest)
        .text (Char.ofNat v).toString after
      else .text (String.ofList ['\\', c]) rest

/-- How the replacing of escapes in a text came to its end. -/
inductive Unescaped where
  | whole
  /-- By an escape that ends the output. -/
  | ended
  | faulty
deriving DecidableEq

/-- An argument's text with its escapes replaced, and how that came to its end. -/
def replaceEscapes (j : Judge) : Nat → List Char → List String → String × Unescaped
  | 0, _, acc => (String.join acc.reverse, .whole)
  | n + 1, cs, acc =>
    let run := cs.takeWhile (· != '\\')
    let acc := if run.isEmpty then acc else String.ofList run :: acc
    match cs.drop run.length with
    | [] => (String.join acc.reverse, .whole)
    | _ :: rest =>
      match escape j true rest with
      | .text s rest => replaceEscapes j n rest (s :: acc)
      | .ending => (String.join acc.reverse, .ended)
      | .fault => (String.join acc.reverse, .faulty)

/-- An argument's text with its escapes replaced, and whether it ends the output. -/
def unescape (j : Judge) (n : Nat) (cs : List Char) (acc : List String) : String × Bool :=
  let r := replaceEscapes j n cs acc
  (r.1, r.2 != .whole)

structure Directive where
  minus : Bool := false
  plus : Bool := false
  blank : Bool := false
  zero : Bool := false
  sharp : Bool := false
  width : Nat := 0
  precision : Option Nat := none

def pad (d : Directive) (s : String) : String :=
  let fill := String.ofList (List.replicate (d.width - s.length) ' ')
  if d.minus then s ++ fill else fill ++ s

/-- A number's digits with its sign, filled up to the width. -/
def padNumber (d : Directive) (sign ds : String) (mayZero : Bool) : String :=
  if d.zero && !d.minus && mayZero then
    sign ++ String.ofList (List.replicate (d.width - sign.length - ds.length) '0') ++ ds
  else pad d (sign ++ ds)

def signOf (d : Directive) (negative : Bool) : String :=
  if negative then "-" else if d.plus then "+" else if d.blank then " " else ""

def minDigits (d : Directive) (ds : String) : String :=
  match d.precision with
  | some p =>
    if p = 0 && ds == "0" then ""
    else String.ofList (List.replicate (p - ds.length) '0') ++ ds
  | none => ds

def formatInteger (d : Directive) (conv : Char) (v : Int) : String :=
  let unsigned : Nat := (v % 18446744073709551616).toNat
  match conv with
  | 'd' | 'i' =>
    padNumber d (signOf d (v < 0)) (minDigits d (digits 10 v.natAbs)) d.precision.isNone
  | 'u' => padNumber d "" (minDigits d (digits 10 unsigned)) d.precision.isNone
  | 'o' =>
    let ds := minDigits d (digits 8 unsigned)
    padNumber d "" (if d.sharp && !ds.startsWith "0" then "0" ++ ds else ds) d.precision.isNone
  | 'x' =>
    padNumber d (if d.sharp && unsigned != 0 then "0x" else "")
      (minDigits d (digits 16 unsigned)) d.precision.isNone
  | _ =>
    padNumber d (if d.sharp && unsigned != 0 then "0X" else "")
      (minDigits d (digits 16 unsigned)).toUpper d.precision.isNone

def formatDecimal (d : Directive) (conv : Char) (x : Decimal) : String :=
  let p := d.precision.getD 6
  let text :=
    match conv.toLower with
    | 'f' => fixedText x p
    | 'e' => exponentText x p
    | _ => generalText x p d.sharp
  padNumber d (signOf d x.negative) (if conv.isUpper then text.toUpper else text) true

/-- Write a number with a fraction, or the word for what is none. -/
def formatQuantity (d : Directive) (conv : Char) (q : Quantity) : String :=
  let word (negative : Bool) (s : String) : String :=
    pad d (signOf d negative ++ (if conv.isUpper then s.toUpper else s))
  match q with
  | .finite x => formatDecimal d conv x
  | .infinite negative => word negative "inf"
  | .notNumber negative => word negative "nan"

/-! ## Directives -/

/-- What is wrong with the text of a number. -/
inductive Flaw where
  /-- It does not begin with a number. -/
  | none
  /-- Something follows the number. -/
  | partly
  | tooLarge
  /-- Something follows a single character. -/
  | surplus (rest : String)
deriving DecidableEq

/-- The number that an argument gives, and what is wrong with it. -/
def integerArgument (arg : Option String) (signed : Bool) : Int × Option Flaw :=
  match arg with
  | none => (0, none)
  | some s =>
    match s.toList with
    | [] => (0, none)
    | '\x27' :: c :: more | '"' :: c :: more =>
      (c.toNat, if more.isEmpty then none else some (.surplus (String.ofList more)))
    | cs =>
      let flaw (found fits : Bool) (rest : List Char) : Option Flaw :=
        if !found then some .none
        else if !rest.isEmpty then some .partly
        else if !fits then some .tooLarge
        else none
      if signed then
        let n := Numeral.read 0 cs
        (n.value, flaw n.found n.fits n.rest)
      else
        let (negative, ds) := Numeral.sign (cs.dropWhile isSpace)
        let (b, ds) := Numeral.base ds
        let (v, count, rest) := takeDigits b ds 0 0
        let v : Int := if negative then -v else v
        let fits := decide (v.natAbs ≤ 18446744073709551615)
        (if fits then v else 18446744073709551615, flaw (count != 0) fits rest)

def quantityArgument (p : Precision) (arg : Option String) : Quantity × Option Flaw :=
  let zero : Quantity := .finite ⟨false, 0, 0⟩
  match arg with
  | none => (zero, none)
  | some s =>
    match s.toList with
    | [] => (zero, none)
    | '\x27' :: c :: more | '"' :: c :: more =>
      (.finite ⟨false, c.toNat, 0⟩,
        if more.isEmpty then none else some (.surplus (String.ofList more)))
    | cs =>
      match readQuantity p cs with
      | some (x, rest) =>
        let lost := match x with
          | .infinite _ => cs.any isDigit
          | .finite x => x.digits = 0 && cs.any (between '1' '9')
          | .notNumber _ => false
        (x, if !rest.isEmpty then some .partly else if lost then some .tooLarge else none)
      | none => (zero, some .none)

/-- Take notice of what is wrong with a number. -/
def noteFlaw (j : Judge) (isWhole : Bool) (arg : Option String) (flaw : Option Flaw)
    (w : Writing) : Writing :=
  let s := arg.getD ""
  let wrong (trouble : String) : Writing := complainOf { w with code := 1 } trouble
  match flaw, j with
  | none, _ => w
  | some (.surplus rest), .tool =>
    complainOf w ("warning: " ++ rest ++
      ": character(s) following character constant have been ignored")
  | some (.surplus _), _ => w
  | some .tooLarge, .richShell => complainOf w ("warning: " ++ s ++ ": Numerical result out of range")
  | some _, .richShell =>
    let ds := (Numeral.sign (s.toList.dropWhile isSpace)).2
    let kind := match isWhole, ds with
      | true, '0' :: x :: _ => if Numeral.isHexMark x then "hex number" else "octal number"
      | _, _ => "number"
    wrong (s ++ ": invalid " ++ kind)
  | some flaw, .plainShell =>
    wrong (s ++ match flaw with
      | .none => ": expected numeric value"
      | .tooLarge => ": Numerical result out of range"
      | _ => ": not completely converted")
  | some flaw, _ =>
    wrong (Quoting.shown s ++ match flaw with
      | .none => ": expected a numeric value"
      | .tooLarge => ": Numerical result out of range"
      | _ => ": value not completely converted")

/-- A text quoted so that a shell reads it as one word. -/
def shellQuoted (rich : Bool) (s : String) : String :=
  let isSafe (c : Char) : Bool := isLetter c || isDigit c || "_/.-+:,@%=".toList.contains c
  if rich then Quoting.escaped s
  else if s.isEmpty then "\x27\x27"
  else if s.all isSafe then s
  else if s.contains '\x27' && !(s.any fun c => Quoting.isUnseen c || "\"$\x60\\!".toList.contains c) then
    "\"" ++ s ++ "\""
  else Quoting.stretches s

/-- The flags of a directive, and what follows them. -/
def flags : List Char → Directive → Directive × List Char
  | '-' :: rest, d => flags rest { d with minus := true }
  | '+' :: rest, d => flags rest { d with plus := true }
  | ' ' :: rest, d => flags rest { d with blank := true }
  | '0' :: rest, d => flags rest { d with zero := true }
  | '#' :: rest, d => flags rest { d with sharp := true }
  | '\x27' :: rest, d => flags rest d
  | rest, d => (d, rest)

/-- A width or a precision, which an argument may give. -/
def measure (j : Judge) (cs : List Char) (w : Writing) : Option Int × List Char × Writing :=
  match cs with
  | '*' :: rest =>
    let (a, w) := next w
    let (v, flaw) := integerArgument a true
    (some v, rest, noteFlaw j true a flaw w)
  | cs =>
    let (v, count, rest) := takeDigits 10 cs 0 0
    (if count = 0 then none else some v, rest, w)

/-- Carry out a directive behind its percent sign. -/
def directive (j : Judge) (start : List Char) (w : Writing) : Writing × List Char :=
  let (d, cs) := flags start {}
  let (width, cs, w) := measure j cs w
  let d : Directive :=
    match width with
    | some n => { d with minus := d.minus || n < 0, width := n.natAbs }
    | none => d
  let (d, cs, w) : Directive × List Char × Writing :=
    match cs with
    | '.' :: rest =>
      let (p, rest, w) := measure j rest w
      let p := p.getD 0
      ({ d with precision := if p < 0 then none else some p.toNat }, rest, w)
    | cs => (d, cs, w)
  let shortForm := start.take (start.length - cs.length)
  let cs := if j == .plainShell then cs else cs.dropWhile fun c => "hlLjzt".toList.contains c
  let wholeForm := start.take (start.length - cs.length)
  let refuse : Writing × List Char :=
    let written := String.ofList ('%' :: start.take (start.length - cs.length + 1))
    let trouble :=
      match j, cs with
      | .richShell, [] =>
        "\x60%" ++ String.ofList wholeForm ++ "\x27: missing format character"
      | .richShell, c :: _ => "\x60" ++ c.toString ++ "\x27: invalid format character"
      | .plainShell, [] => "missing format character"
      | .plainShell, _ => written ++ ": invalid directive"
      | _, _ => written ++ ": invalid conversion specification"
    (complainOf { w with code := if j == .plainShell then 2 else 1, ended := true } trouble, [])
  /- The tool refuses flags that do not go with what follows. -/
  let clash := j == .tool && cs.head?.any fun c =>
    d.sharp && "cdisu".toList.contains c || d.zero && "cs".toList.contains c ||
      d.precision.isSome && c == 'c' || !shortForm.isEmpty && "bq".toList.contains c
  if clash then refuse else
  let cut (s : String) : String :=
    match d.precision with
    | some p => String.ofList (s.toList.take p)
    | none => s
  match cs with
  | [] => refuse
  | conv :: rest =>
    match conv with
    | 'd' | 'i' | 'o' | 'u' | 'x' | 'X' =>
      let (a, w) := next w
      let (v, flaw) := integerArgument a (conv == 'd' || conv == 'i')
      (emit (noteFlaw j true a flaw w) (formatInteger d conv v), rest)
    | 'e' | 'E' | 'f' | 'F' | 'g' | 'G' | 'a' | 'A' =>
      let (a, w) := next w
      let p := if j == .plainShell then Precision.double else .extended
      let (x, flaw) := quantityArgument p a
      let text := match conv == 'a' || conv == 'A', x with
        | true, .finite n =>
          let t := hexadecimalText p n d.precision d.sharp
          padNumber d (signOf d n.negative ++ (if conv == 'A' then "0X" else "0x"))
            (if conv == 'A' then t.toUpper else t) true
        | _, x => formatQuantity d conv x
      (emit (noteFlaw j false a flaw w) text, rest)
    | 's' =>
      let (a, w) := next w
      (emit w (pad d (cut (a.getD ""))), rest)
    | 'c' =>
      let (a, w) := next w
      (emit w (pad d (((a.getD "").toList.head?.getD '\x00').toString)), rest)
    | 'b' =>
      let (a, w) := next w
      let (s, ending) := replaceEscapes j ((a.getD "").length + 1) (a.getD "").toList []
      let w := { emit w (pad d (cut s)) with ended := ending != .whole }
      (if ending == .faulty then
        complainOf { w with code := 1 } "missing hexadecimal number in escape"
      else w, rest)
    | 'q' =>
      if j == .plainShell then refuse
      else
        let (a, w) := next w
        (emit w (pad d (shellQuoted (j == .richShell) (a.getD ""))), rest)
    | 'Q' =>
      if j == .richShell then
        let (a, w) := next w
        (emit w (pad d (shellQuoted true (cut (a.getD "")))), rest)
      else refuse
    | 'n' =>
      if j == .richShell then
        let (a, w) := next w
        ({ w with counted := (a.getD "", w.text.length) :: w.counted }, rest)
      else refuse
    | '(' =>
      if j == .richShell then
        let (a, w) := next w
        let format := rest.takeWhile (· != ')')
        let v : Int := match a with
          | none => -1
          | some a => (Numeral.read 10 a.toList).value
        let time := if v = -1 || v = -2 then w.now
          else { seconds := v, zone := w.now.zone }
        let text := if format.isEmpty then ['%', 'X'] else format
        (emit w (pad d (cut (time.text (String.ofList text)))),
          rest.drop (format.length + 2))
      else refuse
    | _ => refuse

/-- Write the format once. -/
def pass (j : Judge) : Nat → List Char → Writing → Writing
  | 0, _, w => w
  | n + 1, cs, w =>
    if w.ended then w
    else
      let run := cs.takeWhile fun c => c != '%' && c != '\\'
      let w := if run.isEmpty then w else emit w (String.ofList run)
      match cs.drop run.length with
      | [] => w
      | '%' :: '%' :: rest => pass j n rest (emit w "%")
      | '%' :: rest =>
        let (w, rest) := directive j rest w
        pass j n rest w
      | _ :: rest =>
        match escape j false rest with
        | .text s rest => pass j n rest (emit w s)
        | .ending => { w with ended := true }
        | .fault =>
          complainOf { w with ended := true, code := 1 } "missing hexadecimal number in escape"

/-- What was written, cut where something went wrong, with what that was. -/
def Writing.stretches (w : Writing) : List (String × Option String) :=
  let rec go (parts : List String) (done : Nat) :
      List (Nat × String) → List (String × Option String)
    | [] => [(String.join parts, none)]
    | (place, trouble) :: rest =>
      (String.join (parts.take (place - done)), some trouble) ::
        go (parts.drop (place - done)) place rest
  go w.parts.reverse 0 w.troubles.reverse

/-- Write the format until the arguments are used up. -/
def passes (j : Judge) (format : List Char) : Nat → Writing → Writing
  | 0, w => w
  | n + 1, w =>
    let w := pass j (format.length + 1) format { w with used := false }
    if w.ended || !w.used || w.arguments.isEmpty then w else passes j format n w

def run (j : Judge) (now : Instant) (format : String) (arguments : List String) : Writing :=
  let w := passes j format.toList (arguments.length + 1) { arguments := arguments, now := now }
  match j, w.ended, w.arguments with
  | .tool, false, a :: _ =>
    complainOf w ("warning: ignoring excess arguments, starting with " ++ Quoting.shown a)
  | _, _, _ => w

end Format

end StreamSupervisor.Tool
