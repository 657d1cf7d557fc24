/-! # Bytes

Programs see texts as bytes. A text of bytes is a string in which each character stands
for the byte of its number, so that lengths, orders and patterns are those of the bytes.
-/

namespace StreamSupervisor.Machine

/-- The bytes of a text, each as the character of its number. -/
def bytes (s : String) : String :=
  if s.all fun c => decide (c.toNat < 128) then s
  else String.ofList (s.toUTF8.toList.map fun b => Char.ofNat b.toNat)

/-- Whether a character's number lies between two others. -/
def between (low high : Char) (c : Char) : Bool :=
  decide (low.toNat ≤ c.toNat) && decide (c.toNat ≤ high.toNat)

/-- The blanks of the plain character set. -/
def isSpace (c : Char) : Bool := c == ' ' || between '\t' '\r' c

def isDigit (c : Char) : Bool := between '0' '9' c

def isLower (c : Char) : Bool := between 'a' 'z' c

def isUpper (c : Char) : Bool := between 'A' 'Z' c

def isLetter (c : Char) : Bool := isLower c || isUpper c

def isNameStart (c : Char) : Bool := isLetter c || c == '_'

def isNameChar (c : Char) : Bool := isNameStart c || isDigit c

/-- Whether a text can name a variable. -/
def isName (s : String) : Bool :=
  match s.toList with
  | c :: rest => isNameStart c && rest.all isNameChar
  | [] => false

/-- Whether a text consists of digits only. -/
def isDigits (s : String) : Bool := !s.isEmpty && s.all isDigit

/-- Whether the bytes of one text come before those of another. -/
def bytesBefore (a b : String) : Bool := go a.toList b.toList
where
  go : List Char → List Char → Bool
    | [], [] => false
    | [], _ :: _ => true
    | _ :: _, [] => false
    | c :: cs, d :: ds =>
      if c == d then go cs ds else decide (c.toNat < d.toNat)

/-- The lines of a text; a line end at the very end begins no further line. -/
def lines (s : String) : List String :=
  match (s.splitOn "\n").reverse with
  | "" :: rest => rest.reverse
  | rest => rest.reverse

/-- The value of a digit in bases up to thirty-six. -/
def digitValue? (c : Char) : Option Nat :=
  if isDigit c then some (c.toNat - 48)
  else if isLower c then some (c.toNat - 87)
  else if isUpper c then some (c.toNat - 55)
  else none

/-- The number that the digits at the front write, with how many there are and what follows. -/
def takeDigits (base : Nat) : List Char → Nat → Nat → Nat × Nat × List Char
  | c :: rest, value, count =>
    match digitValue? c with
    | some d =>
      if d < base then takeDigits base rest (value * base + d) (count + 1)
      else (value, count, c :: rest)
    | none => (value, count, c :: rest)
  | [], value, count => (value, count, [])

/-- The digits of a number in a base, without a sign. -/
def digits (base : Nat) (n : Nat) : String := String.ofList (Nat.toDigits base n)

/-- The part of a text before the first occurrence of a character, and the part after it. -/
def splitAtChar? (mark : Char) (s : String) : Option (String × String) :=
  let cs := s.toList
  let front := cs.takeWhile (· != mark)
  match cs.drop front.length with
  | _ :: rest => some (String.ofList front, String.ofList rest)
  | [] => none

/-- A text cut off so many characters from its front. -/
def dropChars (n : Nat) (s : String) : String := String.ofList (s.toList.drop n)

/-- The text that the number of a character stands for where only plain characters are known:
others are written by their numbers again. -/
def codedText (code : Nat) : String :=
  if code < 128 then (Char.ofNat code).toString
  else
    let ds := (digits 16 code).toUpper
    let most := if code < 65536 then 4 else 8
    (if code < 65536 then "\\u" else "\\U") ++
      String.ofList (List.replicate (most - ds.length) '0') ++ ds

end StreamSupervisor.Machine
