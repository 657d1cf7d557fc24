import StreamSupervisor.Machine.Bytes

/-! # The calendar

Seconds since 1970 as dates and clock times, written as a format tells.
-/

namespace StreamSupervisor.Tool

open Machine

/-- When the machine's clock began, in seconds. -/
def epoch : Nat := 1717243200

/-- A number with zeros in front. -/
def padded (width n : Nat) : String :=
  let ds := toString n
  String.ofList (List.replicate (width - ds.length) '0') ++ ds

def dayNames : List String :=
  ["Sunday", "Monday", "Tuesday", "Wednesday", "Thursday", "Friday", "Saturday"]

def monthNames : List String :=
  ["January", "February", "March", "April", "May", "June", "July", "August", "September",
    "October", "November", "December"]

/-! ## Days -/

def isLeap (year : Int) : Bool := year % 4 = 0 && (year % 100 != 0 || year % 400 = 0)

def monthLength (year : Int) (month : Nat) : Nat :=
  if month = 2 then (if isLeap year then 29 else 28)
  else if [4, 6, 9, 11].contains month then 30 else 31

/-- A day of the calendar. -/
structure Day where
  year : Int
  month : Nat
  day : Nat

/-- The number of a day since 1970; months and days may lie outside of their ranges. The year
is taken to begin in March, so that the odd day comes last. -/
def dayNumber (year month day : Int) : Int :=
  let months := year * 12 + (month - 1)
  let year := months / 12
  let month := months % 12 + 1
  let y := if month ≤ 2 then year - 1 else year
  let era := y / 400
  let yearOfEra := y % 400
  let fromMarch := (month + 9) % 12
  let dayOfYear := (153 * fromMarch + 2) / 5
  let dayOfEra := yearOfEra * 365 + yearOfEra / 4 - yearOfEra / 100 + dayOfYear
  era * 146097 + dayOfEra - 719468 + (day - 1)

/-- The day with a number since 1970. -/
def Day.ofNumber (days : Int) : Day :=
  let z := days + 719468
  let era := z / 146097
  let dayOfEra := z % 146097
  let yearOfEra :=
    (dayOfEra - dayOfEra / 1460 + dayOfEra / 36524 - dayOfEra / 146096) / 365
  let dayOfYear := dayOfEra - (365 * yearOfEra + yearOfEra / 4 - yearOfEra / 100)
  let fromMarch := (5 * dayOfYear + 2) / 153
  let day := dayOfYear - (153 * fromMarch + 2) / 5 + 1
  let month := if fromMarch < 10 then fromMarch + 3 else fromMarch - 9
  { year := yearOfEra + era * 400 + (if month ≤ 2 then 1 else 0)
    month := month.toNat, day := day.toNat }

/-- The day of the week, with Sunday as zero. -/
def weekdayOf (days : Int) : Nat := ((days + 4) % 7).toNat

/-- The number of a date since 1970, if there is such a date. -/
def dayOf? (year : Int) (month day : Nat) : Option Int :=
  if month = 0 || 12 < month || day = 0 || monthLength year month < day then none
  else some (dayNumber year month day)

/-! ## Zones -/

/-- How far a place's clocks are ahead, in seconds, and how its time is called. -/
structure Zone where
  ahead : Int := 0
  name : String := "UTC"

/-- The zone that a text names: letters, then how far its clocks are behind. -/
def Zone.ofText (s : String) : Zone :=
  let cs := s.toList
  let cs := if cs.head? == some ':' then cs.drop 1 else cs
  let (name, rest) : List Char × List Char := match cs with
    | '<' :: more =>
      let inner := more.takeWhile (· != '>')
      (inner, more.drop (inner.length + 1))
    | cs => (cs.takeWhile isLetter, cs.dropWhile isLetter)
  let (behind, rest) : Int × List Char := match rest with
    | '-' :: more => (-1, more)
    | '+' :: more => (1, more)
    | more => (1, more)
  let (h, count, rest) := takeDigits 10 rest 0 0
  let (m, rest) : Nat × List Char := match rest with
    | ':' :: more =>
      let (m, _, rest) := takeDigits 10 more 0 0
      (m, rest)
    | rest => (0, rest)
  let sec : Nat := match rest with
    | ':' :: more => (takeDigits 10 more 0 0).1
    | _ => 0
  let name := String.ofList name
  if name.length < 3 then { name := if name.isEmpty then "UTC" else name }
  else if count = 0 then { name := name }
  else { ahead := -(behind * ((h * 3600 + m * 60 + sec : Nat) : Int)), name := name }

/-- How far clocks are ahead, with so many colons, as a sign and digits. -/
def Zone.text (z : Zone) (colons : Nat) : String :=
  let size := z.ahead.natAbs
  let h := size / 3600
  let m := size / 60 % 60
  let s := size % 60
  let sign := if z.ahead < 0 then "-" else "+"
  match colons with
  | 0 => sign ++ padded 2 h ++ padded 2 m
  | 1 => sign ++ padded 2 h ++ ":" ++ padded 2 m
  | 2 => sign ++ padded 2 h ++ ":" ++ padded 2 m ++ ":" ++ padded 2 s
  | _ =>
    sign ++ padded 2 h ++ (if m = 0 && s = 0 then "" else ":" ++ padded 2 m) ++
      (if s = 0 then "" else ":" ++ padded 2 s)

/-! ## Formats -/

/-- A time: seconds since 1970, parts of a second, and the zone in which it is told. -/
structure Instant where
  seconds : Int := 0
  nanos : Nat := 0
  zone : Zone := {}

/-- How a part of a time is to be laid out. -/
structure Style where
  /-- The sign that is put in front: a dash for nothing, an underscore for blanks. -/
  fill : Option Char := none
  upper : Bool := false
  swapped : Bool := false
  width : Option Nat := none
  colons : Nat := 0

/-- A number in so many columns, unless the style says otherwise. -/
def Style.number (s : Style) (usual : Char) (width : Nat) (n : Int) : String :=
  let ds := toString n.natAbs
  let sign := if n < 0 then "-" else ""
  let fill := s.fill.getD usual
  if fill == '-' then sign ++ ds
  else
    let width := s.width.getD width
    let room := width - ds.length - sign.length
    if fill == '_' then String.ofList (List.replicate room ' ') ++ sign ++ ds
    else sign ++ String.ofList (List.replicate room '0') ++ ds

/-- A text in so many columns at least. -/
def Style.text (s : Style) (t : String) : String :=
  let t := if s.upper then t.toUpper else t
  let fill := if s.fill == some '0' || s.fill == some '+' then '0' else ' '
  if s.fill == some '-' then t
  else String.ofList (List.replicate (s.width.getD 0 - t.length) fill) ++ t

/-- The week of the year that has most of the days of a week from Monday on, and the year to
which that week belongs. -/
def isoWeek (days : Int) : Int × Int :=
  let fromMonday := (days + 3) % 7
  let thursday := days - fromMonday + 3
  let year := (Day.ofNumber thursday).year
  (year, (thursday - dayNumber year 1 1) / 7 + 1)

/-- A part of a time, by its letter. -/
def Instant.part (t : Instant) (style : Style) (c : Char) : Option String :=
  let seconds := t.seconds + t.zone.ahead
  let days := seconds / 86400
  let inDay := seconds % 86400
  let d := Day.ofNumber days
  let h := inDay / 3600
  let m := inDay / 60 % 60
  let s := inDay % 60
  let weekday := weekdayOf days
  let yearDay := days - dayNumber d.year 1 1
  let number := style.number '0'
  let swap (t : String) : String := if style.swapped then t.toUpper else t
  let two (n : Int) : String := padded 2 n.toNat
  let short (t : String) : String := String.ofList (t.toList.take 3)
  let dayName := (dayNames[weekday]?).getD ""
  let monthName := (monthNames[d.month - 1]?).getD ""
  let clock := two h ++ ":" ++ two m ++ ":" ++ two s
  let twelve := (h + 11) % 12 + 1
  let half := if h < 12 then "AM" else "PM"
  match c with
  | 'a' => some (style.text (swap (short dayName)))
  | 'A' => some (style.text (swap dayName))
  | 'b' | 'h' => some (style.text (swap (short monthName)))
  | 'B' => some (style.text (swap monthName))
  | 'c' =>
    some (style.text (short dayName ++ " " ++ short monthName ++ " " ++
      (if d.day < 10 then " " else "") ++ toString d.day ++ " " ++ clock ++ " " ++
      toString d.year))
  | 'C' => some (number 2 (d.year / 100))
  | 'd' => some (number 2 d.day)
  | 'D' | 'x' =>
    some (style.text (two d.month ++ "/" ++ two d.day ++ "/" ++ two (d.year % 100)))
  | 'e' => some (style.number '_' 2 d.day)
  | 'F' =>
    let year := { style with width := style.width.map (· - 6) : Style }.number '0' 4 d.year
    some (year ++ "-" ++ two d.month ++ "-" ++ two d.day)
  | 'g' => some (number 2 ((isoWeek days).1 % 100))
  | 'G' => some (number 4 (isoWeek days).1)
  | 'H' => some (number 2 h)
  | 'I' => some (number 2 twelve)
  | 'j' => some (number 3 (yearDay + 1))
  | 'k' => some (style.number '_' 2 h)
  | 'l' => some (style.number '_' 2 twelve)
  | 'm' => some (number 2 d.month)
  | 'M' => some (number 2 m)
  | 'n' => some (style.text "\n")
  | 'N' =>
    let places := style.width.getD 9
    let ds := padded 9 t.nanos
    some (String.ofList (ds.toList.take places) ++
      String.ofList (List.replicate (places - 9) '0'))
  | 'p' => some (style.text (if style.swapped then half.toLower else half))
  | 'P' => some (style.text half.toLower)
  | 'q' => some (number 1 ((d.month - 1) / 3 + 1 : Nat))
  | 'r' => some (style.text (two twelve ++ ":" ++ two m ++ ":" ++ two s ++ " " ++ half))
  | 'R' => some (style.text (two h ++ ":" ++ two m))
  | 's' => some (number 1 t.seconds)
  | 'S' => some (number 2 s)
  | 't' => some (style.text "\t")
  | 'T' | 'X' => some (style.text clock)
  | 'u' => some (number 1 ((days + 3) % 7 + 1))
  | 'U' => some (number 2 ((yearDay + 7 - weekday) / 7))
  | 'V' => some (number 2 (isoWeek days).2)
  | 'w' => some (number 1 weekday)
  | 'W' => some (number 2 ((yearDay + 7 - (weekday + 6) % 7) / 7))
  | 'y' => some (number 2 (d.year % 100))
  | 'Y' => some (number 4 d.year)
  | 'z' => some (t.zone.text style.colons)
  | 'Z' =>
    some (style.text (if style.swapped then t.zone.name.toLower else t.zone.name))
  | '%' => some (style.text "%")
  | _ => none

/-- Write a time as a format tells. -/
def Instant.write (t : Instant) : Nat → List Char → List String → String
  | 0, _, out => String.join out.reverse
  | _ + 1, [], out => String.join out.reverse
  | n + 1, '%' :: rest, out =>
    let isFlag (c : Char) : Bool := "_-0^#+".toList.contains c
    let flags := rest.takeWhile isFlag
    let after := rest.drop flags.length
    let ds := after.takeWhile isDigit
    let after := after.drop ds.length
    let colons := after.takeWhile (· == ':')
    let after := after.drop colons.length
    let after := match after with
      | 'E' :: more | 'O' :: more => more
      | more => more
    let style : Style := {
      fill := (flags.filter fun c => "_-0+".toList.contains c).getLast?
      upper := flags.contains '^', swapped := flags.contains '#'
      width := if ds.isEmpty then none else some (takeDigits 10 ds 0 0).1
      colons := colons.length }
    match after with
    | [] => String.join (String.ofList ('%' :: rest) :: out).reverse
    | c :: more =>
      match t.part style c with
      | some text => t.write n more (text :: out)
      | none =>
        let shown := '%' :: rest.take (rest.length - more.length)
        t.write n more (String.ofList shown :: out)
  | n + 1, cs, out =>
    let plain := cs.takeWhile (· != '%')
    t.write n (cs.drop plain.length) (String.ofList plain :: out)

/-- A time as a format tells. -/
def Instant.text (t : Instant) (format : String) : String :=
  t.write (format.length + 1) format.toList []

end StreamSupervisor.Tool
