import StreamSupervisor.Tool.Calendar

/-! # Descriptions of times

Times as people write them: dates, times of day, days of the week, zones, and shifts relative
to what else is said. What is not said is taken from the present.
-/

namespace StreamSupervisor.Tool

open Machine

namespace Dates

/-- A unit of time. -/
inductive Span where
  | months (count : Int)
  | days (count : Int)
  | seconds (count : Int)

/-- A word, number or mark of a description. -/
inductive Token where
  /-- A number, with whether a sign stood before it and how many digits it has. -/
  | number (value : Int) (signed : Bool) (digits : Nat)
  /-- Seconds with a fraction, in billionths. -/
  | fraction (seconds : Int) (nanos : Nat) (signed : Bool)
  | mark (c : Char)
  | month (number : Nat)
  | weekday (number : Nat)
  | half (afternoon : Bool)
  | zone (ahead : Int)
  | summer
  | span (s : Span)
  | ordinal (n : Int)
  | direction (sign : Int)
  | shift (days : Int)
  /-- The letter that sets a time apart from its date, or names a zone. -/
  | letterT
  | unknown

def zones : List (String × Int) :=
  [("GMT", 0), ("UT", 0), ("UTC", 0), ("WET", 0), ("WEST", 3600), ("BST", 3600),
    ("ART", -10800), ("BRT", -10800), ("BRST", -7200), ("NST", -12600), ("NDT", -9000),
    ("AST", -14400), ("ADT", -10800), ("CLT", -14400), ("CLST", -10800), ("EST", -18000),
    ("EDT", -14400), ("CST", -21600), ("CDT", -18000), ("MST", -25200), ("MDT", -21600),
    ("PST", -28800), ("PDT", -25200), ("AKST", -32400), ("AKDT", -28800), ("HST", -36000),
    ("HAST", -36000), ("HADT", -32400), ("SST", -43200), ("WAT", 3600), ("CET", 3600),
    ("CEST", 7200), ("MET", 3600), ("MEZ", 3600), ("MEST", 7200), ("MESZ", 7200),
    ("EET", 7200), ("EEST", 10800), ("CAT", 7200), ("SAST", 7200), ("EAT", 10800),
    ("MSK", 10800), ("MSD", 14400), ("IST", 19800), ("SGT", 28800), ("KST", 32400),
    ("JST", 32400), ("GST", 36000), ("NZST", 43200), ("NZDT", 46800)]

def ordinals : List (String × Int) :=
  [("LAST", -1), ("THIS", 0), ("NEXT", 1), ("FIRST", 1), ("THIRD", 3), ("FOURTH", 4),
    ("FIFTH", 5), ("SIXTH", 6), ("SEVENTH", 7), ("EIGHTH", 8), ("NINTH", 9), ("TENTH", 10),
    ("ELEVENTH", 11), ("TWELFTH", 12)]

def spans : List (String × Span) :=
  [("YEAR", .months 12), ("MONTH", .months 1), ("FORTNIGHT", .days 14), ("WEEK", .days 7),
    ("DAY", .days 1), ("HOUR", .seconds 3600), ("MINUTE", .seconds 60), ("MIN", .seconds 60),
    ("SECOND", .seconds 1), ("SEC", .seconds 1)]

/-- The place of a word among names, in full or cut to three letters. -/
def nameIndex? (names : List String) (word : String) : Option Nat :=
  let core := if word.length = 4 && word.endsWith "." then (word.dropEnd 1).toString else word
  names.findIdx? fun n =>
    let n := n.toUpper
    n == word || core.length = 3 && n.startsWith core

/-- What a word stands for. -/
def wordToken (w : String) : Token :=
  let w := w.toUpper
  let bare := String.ofList (w.toList.filter (· != '.'))
  let single := if w.endsWith "S" then (w.dropEnd 1).toString else w
  let days := [("TUES", 2), ("WEDNES", 3), ("THUR", 4), ("THURS", 4)]
  if bare == "AM" then .half false
  else if bare == "PM" then .half true
  else
    match nameIndex? monthNames w, nameIndex? dayNames w, days.lookup w with
    | some m, _, _ => .month (m + 1)
    | none, some d, _ => .weekday d
    | none, none, some d => .weekday d
    | none, none, none =>
      if w == "SEPT" then .month 9
      else
        match zones.lookup w, (spans.lookup w).or (spans.lookup single), ordinals.lookup w with
        | some z, _, _ => .zone z
        | none, some s, _ => .span s
        | none, none, some n => .ordinal n
        | none, none, none =>
          match w with
          | "DST" => .summer
          | "TOMORROW" => .shift 1
          | "YESTERDAY" => .shift (-1)
          | "TODAY" | "NOW" => .shift 0
          | "AGO" => .direction (-1)
          | "HENCE" => .direction 1
          | "T" => .letterT
          | "Z" => .zone 0
          | _ =>
            match w.toList with
            | [c] =>
              let v : Int := c.toNat - 65
              if between 'A' 'I' c then .zone ((v + 1) * 3600)
              else if between 'K' 'M' c then .zone (v * 3600)
              else if between 'N' 'Y' c then .zone (-(v - 12) * 3600)
              else .unknown
            | _ => .unknown

/-- Skip a remark in brackets. -/
def skipRemark : Nat → List Char → List Char
  | _, [] => []
  | depth, c :: rest =>
    let depth := if c == '(' then depth + 1 else if c == ')' then depth - 1 else depth
    if depth = 0 then rest else skipRemark depth rest

def tokens : Nat → List Char → List Token
  | 0, _ => []
  | _ + 1, [] => []
  | n + 1, c :: rest =>
    if isSpace c then tokens n rest
    else if c == '(' then tokens n (skipRemark 1 rest)
    else if isLetter c then
      let word := (c :: rest).takeWhile fun d => isLetter d || d == '.'
      wordToken (String.ofList word) :: tokens n ((c :: rest).drop word.length)
    else
      let signed := c == '-' || c == '+'
      let body := if signed then rest.dropWhile isSpace else c :: rest
      let ds := body.takeWhile isDigit
      if ds.isEmpty then
        (if signed then tokens n rest else .mark c :: tokens n rest)
      else
        let v : Int := (takeDigits 10 ds 0 0).1
        let v := if c == '-' then -v else v
        match body.drop ds.length with
        | p :: d :: more =>
          if (p == '.' || p == ',') && isDigit d then
            let fs := (d :: more).takeWhile isDigit
            let nanos := (takeDigits 10 ((fs ++ List.replicate 9 '0').take 9) 0 0).1
            /- A time before 1970 is told by the second before it. -/
            let (v, nanos) := if c == '-' && 0 < nanos then (v - 1, 1000000000 - nanos)
              else (v, nanos)
            .fraction v nanos signed :: tokens n ((d :: more).drop fs.length)
          else .number v signed ds.length :: tokens n (p :: d :: more)
        | after => .number v signed ds.length :: tokens n after

/-- What a description has told. -/
structure Told where
  year : Option (Int × Nat) := none
  month : Nat := 1
  day : Int := 1
  hour : Int := 0
  minute : Int := 0
  second : Int := 0
  nanos : Nat := 0
  half : Option Bool := none
  weekday : Nat := 0
  ordinal : Int := 0
  zone : Int := 0
  shiftMonths : Int := 0
  shiftDays : Int := 0
  shiftSeconds : Int := 0
  dates : Nat := 0
  times : Nat := 0
  weekdays : Nat := 0
  zoneCount : Nat := 0
  shifted : Bool := false
  stamp : Option (Int × Nat) := none

def Told.date (t : Told) (year : Option (Int × Nat)) (month day : Int) : Told :=
  { t with year := year.or t.year, month := month.toNat, day := day, dates := t.dates + 1 }

def Told.clock (t : Told) (h m s : Int) (nanos : Nat := 0) (half : Option Bool := none) : Told :=
  { t with hour := h, minute := m, second := s, nanos := nanos, half := half
           times := t.times + 1 }

def Told.shift (t : Told) (s : Span) (count : Int) : Told :=
  match s with
  | .months k => { t with shiftMonths := t.shiftMonths + k * count, shifted := true }
  | .days k => { t with shiftDays := t.shiftDays + k * count, shifted := true }
  | .seconds k => { t with shiftSeconds := t.shiftSeconds + k * count, shifted := true }

/-- How far ahead a signed number says that clocks are: hours, or hours and minutes. -/
def zoneShift? (value : Int) (digits : Nat) (minutes : Option Int) : Option Int :=
  let size := value.natAbs
  let total : Nat := match minutes with
    | some m => size * 60 + m.toNat
    | none => if digits ≤ 2 then size * 60 else size / 100 * 60 + size % 100
  if 1440 < total then none
  else some (if value < 0 then -((total * 60 : Nat) : Int) else (total * 60 : Nat))

/-- Read a zone behind a time of day, where there is one. -/
def zoneAfter (t : Told) : List Token → Option (Told × List Token)
  | .number v true d :: .mark ':' :: .number m false _ :: rest =>
    (zoneShift? v d (some m)).map fun z =>
      ({ t with zone := z, zoneCount := t.zoneCount + 1 }, rest)
  | .number v true d :: rest =>
    (zoneShift? v d none).map fun z =>
      ({ t with zone := z, zoneCount := t.zoneCount + 1 }, rest)
  | rest => some (t, rest)

/-- Read a shift: a number of units, perhaps back in time. -/
def shiftBy (t : Told) (s : Span) (count : Int) : List Token → Told × List Token
  | .direction sign :: rest => (t.shift s (count * sign), rest)
  | rest => (t.shift s count, rest)

/-- Read one item of a description, and tell what follows it. -/
def item (t : Told) : List Token → Option (Told × List Token)
  /- Times of day. -/
  | .number h false _ :: .half p :: rest => some (t.clock h 0 0 0 (some p), rest)
  | .number h false _ :: .mark ':' :: .number m false _ :: .mark ':' :: .number s false _ ::
      .half p :: rest => some (t.clock h m s 0 (some p), rest)
  | .number h false _ :: .mark ':' :: .number m false _ :: .mark ':' :: .number s false _ ::
      rest => zoneAfter (t.clock h m s) rest
  | .number h false _ :: .mark ':' :: .number m false _ :: .mark ':' :: .fraction s f false ::
      .half p :: rest => some (t.clock h m s f (some p), rest)
  | .number h false _ :: .mark ':' :: .number m false _ :: .mark ':' :: .fraction s f false ::
      rest => zoneAfter (t.clock h m s f) rest
  | .number h false _ :: .mark ':' :: .number m false _ :: .half p :: rest =>
    some (t.clock h m 0 0 (some p), rest)
  | .number h false _ :: .mark ':' :: .number m false _ :: rest => zoneAfter (t.clock h m 0) rest
  /- Dates. -/
  | .number a false da :: .mark '/' :: .number b false _ :: .mark '/' ::
      .number c false dc :: rest =>
    if 4 ≤ da then some (t.date (some (a, da)) b c, rest)
    else some (t.date (some (c, dc)) a b, rest)
  | .number a false _ :: .mark '/' :: .number b false _ :: rest => some (t.date none a b, rest)
  | .number y false dy :: .number m true _ :: .number d true _ :: rest =>
    if m ≤ 0 && d ≤ 0 then
      let t := t.date (some (y, dy)) (-m) (-d)
      match rest with
      | .letterT :: more => some (t, more)
      | rest => some (t, rest)
    else none
  | .number d false _ :: .month m :: .number y true dy :: rest =>
    if y < 0 then some (t.date (some (-y, dy)) m d, rest) else none
  | .number d false _ :: .month m :: .number y false dy :: .mark ':' :: rest =>
    some (t.date none m d, .number y false dy :: .mark ':' :: rest)
  | .number d false _ :: .month m :: .number y false dy :: rest =>
    some (t.date (some (y, dy)) m d, rest)
  | .number d false _ :: .month m :: rest => some (t.date none m d, rest)
  | .month m :: .number d true _ :: .number y true dy :: rest =>
    if d < 0 && y < 0 then some (t.date (some (-y, dy)) m (-d), rest) else none
  | .month m :: .number d false _ :: .mark ',' :: .number y false dy :: rest =>
    some (t.date (some (y, dy)) m d, rest)
  | .month m :: .number d false _ :: rest => some (t.date none m d, rest)
  /- Days of the week. -/
  | .weekday d :: .mark ',' :: rest | .weekday d :: rest =>
    some ({ t with weekday := d, ordinal := 0, weekdays := t.weekdays + 1 }, rest)
  | .ordinal n :: .weekday d :: rest =>
    some ({ t with weekday := d, ordinal := n, weekdays := t.weekdays + 1 }, rest)
  | .number n false _ :: .weekday d :: rest =>
    some ({ t with weekday := d, ordinal := n, weekdays := t.weekdays + 1 }, rest)
  /- Shifts. -/
  | .number n _ _ :: .span s :: rest => some (shiftBy t s n rest)
  | .fraction n f _ :: .span (.seconds 1) :: rest =>
    let (t, rest) := shiftBy t (.seconds 1) n rest
    some ({ t with nanos := t.nanos + f }, rest)
  | .ordinal n :: .span s :: rest => some (shiftBy t s n rest)
  | .span s :: rest => some (shiftBy t s 1 rest)
  | .shift d :: rest => some (t.shift (.days 1) d, rest)
  /- Zones. -/
  | .zone z :: .number n true d :: .span s :: rest =>
    let (t, rest) := shiftBy { t with zone := z, zoneCount := t.zoneCount + 1 } s n rest
    let _ := d
    some (t, rest)
  | .zone z :: .number n true d :: .mark ':' :: .number m false _ :: rest =>
    (zoneShift? n d (some m)).map fun k =>
      ({ t with zone := z + k, zoneCount := t.zoneCount + 1 }, rest)
  | .zone z :: .number n true d :: rest =>
    (zoneShift? n d none).map fun k =>
      ({ t with zone := z + k, zoneCount := t.zoneCount + 1 }, rest)
  | .zone z :: .summer :: rest =>
    some ({ t with zone := z + 3600, zoneCount := t.zoneCount + 1 }, rest)
  | .zone z :: rest => some ({ t with zone := z, zoneCount := t.zoneCount + 1 }, rest)
  | .letterT :: rest => some ({ t with zone := -25200, zoneCount := t.zoneCount + 1 }, rest)
  /- A bare number is a year, a date, or a time of day. -/
  | .number v false d :: rest =>
    if 0 < t.dates && (t.year.all (·.2 = 0)) && !t.shifted && (0 < t.times || 2 < d) then
      some ({ t with year := some (v, d) }, rest)
    else if 4 < d then
      some (t.date (some (v / 10000, d - 4)) (v / 100 % 100) (v % 100), rest)
    else if d ≤ 2 then some (t.clock v 0 0, rest)
    else some (t.clock (v / 100) (v % 100) 0, rest)
  | _ => none

/-- Read all items. -/
def items : Nat → Told → List Token → Option Told
  | 0, _, _ => none
  | _ + 1, t, [] => some t
  | n + 1, t, ts => (item t ts).bind fun (t, rest) => items n t rest

/-- The hour that a number and a half of the day name. -/
def hourOf? (h : Int) : Option Bool → Option Int
  | none => if 0 ≤ h && h < 24 then some h else none
  | some afternoon =>
    if 0 < h && h ≤ 12 then some (h % 12 + (if afternoon then 12 else 0)) else none

/-- A year of two digits lies between 1969 and 2068. -/
def fullYear (year : Int) (digits : Nat) : Int :=
  if digits = 2 then (if year < 69 then year + 2000 else year + 1900) else year

/-- The time that was told, relative to the present. -/
def Told.resolve (t : Told) (now : Instant) : Option Instant :=
  if 1 < t.times || 1 < t.dates || 1 < t.weekdays || 1 < t.zoneCount then none
  else
    let here := now.seconds + now.zone.ahead
    let today := Day.ofNumber (here / 86400)
    let year := match t.year with
      | some (y, d) => fullYear y d
      | none => today.year
    let (month, day) : Nat × Int :=
      if 0 < t.dates then (t.month, t.day) else (today.month, today.day)
    let keepsClock := t.shifted && t.dates = 0 && t.weekdays = 0
    let clock? : Option (Int × Nat) :=
      if 0 < t.times then
        if 60 ≤ t.minute || 60 < t.second then none
        else (hourOf? t.hour t.half).map fun h => (h * 3600 + t.minute * 60 + t.second, t.nanos)
      else if keepsClock then some (here % 86400, now.nanos)
      else some (0, t.nanos)
    match dayOf? year month day.toNat, clock? with
    | some start, some (clock, nanos) =>
      let start :=
        if 0 < t.weekdays && t.dates = 0 then
          let present := weekdayOf start
          let weeks := t.ordinal - (if 0 < t.ordinal && present != t.weekday then 1 else 0)
          start + weeks * 7 + (((t.weekday : Int) - present + 7) % 7)
        else start
      let d := Day.ofNumber start
      let moved := if t.shiftMonths = 0 then start
        else dayNumber d.year (d.month + t.shiftMonths) d.day
      let moved := moved + t.shiftDays
      let ahead := if 0 < t.zoneCount then t.zone else now.zone.ahead
      some { now with seconds := moved * 86400 + clock - ahead + t.shiftSeconds, nanos := nanos }
    | _, _ => none

end Dates

/-- The time that a description gives, if it is understood. -/
def timeOf? (now : Instant) (description : String) : Option Instant :=
  let cs := description.toList.dropWhile isSpace
  /- A zone may be named in front. -/
  let (now, cs) : Instant × List Char := match String.ofList (cs.take 4) with
    | "TZ=\"" =>
      let name := (cs.drop 4).takeWhile (· != '"')
      ({ now with zone := Zone.ofText (String.ofList name) },
        cs.drop (4 + name.length + 1))
    | _ => (now, cs)
  let ts := Dates.tokens (cs.length + 1) cs
  match ts with
  | [.mark '@', .number v _ _] => some { now with seconds := v, nanos := 0 }
  | [.mark '@', .fraction v f _] => some { now with seconds := v, nanos := f }
  | ts => (Dates.items (ts.length + 1) {} ts).bind fun t => t.resolve now

end StreamSupervisor.Tool
