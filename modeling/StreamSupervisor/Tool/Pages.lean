import StreamSupervisor.Tool.Calendar
import StreamSupervisor.Tool.Layout

/-! # Pages

Lines laid out on pages, with a header above them, and in several columns.
-/

namespace StreamSupervisor.Tool

open Machine

namespace Pages

/-- How pages are laid out. -/
structure Plan where
  length : Nat := 66
  width : Nat := 72
  columns : Nat := 1
  /-- Whether each column shows an input of its own. -/
  merges : Bool := false
  across : Bool := false
  /-- Whether pages have headers and trailers. -/
  headed : Bool := true
  doubled : Bool := false
  /-- What stands between columns; nothing for blanks up to the next column. -/
  separator : Option String := none
  /-- Whether columns are filled up with blanks. -/
  pads : Bool := true
  /-- Whether lines are cut off at the ends of their columns. -/
  cuts : Bool := false
  number : Option (Char × Nat) := none
  first : Int := 1
  indent : Nat := 0
  pages : Nat × Option Nat := (1, none)

/-- How many lines of text a page has. -/
def Plan.body (p : Plan) : Nat :=
  let all := if p.headed then p.length - 10 else p.length
  Nat.max 1 (if p.doubled then all / 2 else all)

/-- How many columns a numbered line takes before its text. -/
def Plan.numberWidth (p : Plan) : Nat :=
  match p.number with
  | some (mark, digits) => if mark == '\t' then (digits + 8) - (digits % 8) else digits + 1
  | none => 0

/-- How wide a column is. -/
def Plan.columnWidth (p : Plan) : Nat :=
  let gap := (p.separator.map (·.length)).getD 1
  let numbers := if p.merges then p.numberWidth else 0
  let taken := numbers + (p.columns - 1) * gap
  (p.width - taken) / p.columns

/-- A number with the mark behind it, cut off at the left where it is too long. -/
def Plan.numbered (p : Plan) (n : Int) : String :=
  match p.number with
  | none => ""
  | some (mark, digits) =>
    let ds := (toString n).toList
    let ds := ds.drop (ds.length - digits)
    String.ofList (List.replicate (digits - ds.length) ' ' ++ ds) ++ mark.toString

/-- Blanks from one place to another, with tabs where they lead to a multiple of eight. -/
def gapTo (stop : Nat) : Nat → Nat → List Char
  | 0, place => List.replicate (stop - place) ' '
  | n + 1, place =>
    let next := place + 8 - place % 8
    if place + 1 < stop && next ≤ stop then '\t' :: gapTo stop n next
    else List.replicate (stop - place) ' '

/-- Turn blanks into tabs where they lead to a multiple of eight. -/
def tabified (line : String) : String :=
  let rec go : List Char → Nat → Nat → List Char
    | [], place, pending => gapTo (place + pending) pending place
    | c :: cs, place, pending =>
      if c == ' ' then go cs place (pending + 1)
      else gapTo (place + pending) pending place ++ c :: go cs (place + pending + 1) 0
  String.ofList (go line.toList 0 0)

/-- The cells of a row, side by side. -/
def Plan.row (p : Plan) (cells : List String) : String :=
  let margin := String.ofList (List.replicate p.indent ' ')
  if p.columns = 1 then
    let line := cells.headD ""
    margin ++ (if p.cuts then String.ofList (line.toList.take p.width) else line)
  else
    let width := p.columnWidth
    if !p.pads then
      let cells := if p.cuts then
          cells.map fun c => String.ofList (c.toList.take width)
        else cells
      margin ++ (p.separator.getD "").intercalate cells
    else
      let padded := cells.zipIdx.map fun (c, i) =>
        let c := String.ofList (c.toList.take width)
        if i + 1 < cells.length then
          c ++ String.ofList (List.replicate (width - c.length) ' ') ++ p.separator.getD " "
        else c
      tabified (margin ++ String.join padded)

/-- The rows of a page that shows some lines in columns. -/
def Plan.rows (p : Plan) (lines : List String) : List (List String) :=
  let cells := lines.toArray
  let cell (i : Nat) : Option String := cells[i]?
  if p.columns = 1 then lines.map fun l => [l]
  else if p.across then
    let height := (lines.length + p.columns - 1) / p.columns
    (List.range height).map fun r =>
      (List.range p.columns).filterMap fun c => cell (r * p.columns + c)
  else
    let low := lines.length / p.columns
    let extra := lines.length % p.columns
    let height := low + (if extra = 0 then 0 else 1)
    let start (c : Nat) : Nat := c * low + Nat.min c extra
    let size (c : Nat) : Nat := low + (if c < extra then 1 else 0)
    (List.range height).map fun r =>
      (List.range p.columns).filterMap fun c =>
        if r < size c then cell (start c + r) else none

/-- The header of a page. -/
def Plan.header (p : Plan) (date title : String) (page : Nat) : String :=
  let right := "Page " ++ toString page
  let used := date.length + title.length + right.length
  let free := p.width - used
  let left := Nat.max 1 (free / 2)
  let back := Nat.max 1 (free - free / 2)
  let blanks (n : Nat) : String := String.ofList (List.replicate n ' ')
  blanks p.indent ++ date ++ blanks left ++ title ++ blanks back ++ right

/-- The lines of a page, with the empty ones around them. -/
def Plan.page (p : Plan) (date title : String) (page : Nat) (rows : List String) : String :=
  let rows := if p.doubled then rows.flatMap fun r => [r, ""] else rows
  let text := String.join (rows.map (· ++ "\n"))
  if p.headed then
    let room := p.length - 10
    "\n\n" ++ p.header date title page ++ "\n\n\n" ++ text ++
      String.ofList (List.replicate (room - rows.length + 5) '\n')
  else text

/-- Whether a page is to be shown. -/
def Plan.shows (p : Plan) (page : Nat) : Bool :=
  decide (p.pages.1 ≤ page) && p.pages.2.all fun l => decide (page ≤ l)

/-- Lay out the lines of an input on pages. -/
def Plan.text (p : Plan) (date title : String) (lines : List String) : String :=
  let lines := if p.number.isSome then
      lines.zipIdx.map fun (l, i) => p.numbered (p.first + i) ++ l
    else lines
  let size := p.body * p.columns
  let rec go : Nat → Nat → List String → String
    | 0, _, _ => ""
    | n + 1, page, ls =>
      if ls.isEmpty then ""
      else
        let rows := (p.rows (ls.take size)).map p.row
        (if p.shows page then p.page date title page rows else "") ++
          go n (page + 1) (ls.drop size)
  go (lines.length + 1) 1 lines

/-- Lay out several inputs side by side. -/
def Plan.merged (p : Plan) (date : String) (inputs : List (List String)) : String :=
  let height := inputs.foldl (fun n l => Nat.max n l.length) 0
  let arrays := inputs.map List.toArray
  let rows := (List.range height).map fun (r : Nat) =>
    let cells := arrays.map fun a => (a[r]?).getD ""
    p.numbered (p.first + (r : Nat)) ++ p.row cells
  let rec go : Nat → Nat → List String → String
    | 0, _, _ => ""
    | n + 1, page, rs =>
      if rs.isEmpty then ""
      else
        (if p.shows page then p.page date "" page (rs.take p.body) else "") ++
          go n (page + 1) (rs.drop p.body)
  go (height + 1) 1 rows

end Pages

def paginate (args : List String) : Chore Nat :=
  let isCount (v : String) : Bool := isDigits v && v.toNat? != some 0
  let range? (v : String) : Option (Nat × Option Nat) :=
    match v.splitOn ":" with
    | [a] => if isCount a then a.toNat?.map fun n => (n, none) else none
    | [a, b] => if isCount a && isCount b then
        match a.toNat?, b.toNat? with
        | some m, some n => if m ≤ n then some (m, some n) else none
        | _, _ => none
      else none
    | _ => none
  let isPages (a : String) : Bool := a.startsWith "+" && (range? (dropChars 1 a)).isSome
  let start := ((args.find? isPages).bind fun a => range? (dropChars 1 a))
  let args := args.filter fun a => !isPages a
  withOptions { letters := "acdD:e::fFh:i::Jl:mn::N:o:rs::S::tTvw:W:0123456789", long := [
    ("across", .none), ("columns", .required), ("double-space", .none), ("header", .required),
    ("length", .required), ("omit-header", .none), ("omit-pagination", .none),
    ("width", .required), ("page-width", .required), ("merge", .none),
    ("number-lines", .optional), ("pages", .required), ("date-format", .required),
    ("first-line-number", .required), ("separator", .optional), ("sep-string", .optional),
    ("indent", .required), ("join-lines", .none), ("no-file-warnings", .none),
    ("form-feed", .none), ("show-control-chars", .none), ("show-nonprinting", .none),
    ("expand-tabs", .optional), ("output-tabs", .optional)], checks := [
      ⟨["l", "w", "W", "length", "width", "page-width", "columns"], 1, isCount⟩,
      ⟨["pages"], 1, fun v => (range? v).isSome⟩,
      ⟨["o", "indent"], 1, isDigits⟩,
      ⟨["N", "first-line-number"], 1, fun v => (Machine.number? 10 v).isSome⟩] } 1 args
    fun chosen names => do
    let number (ns : List String) : Option Nat := (valueOf? chosen ns).bind String.toNat?
    let typed := (chosen.filter fun c => isDigits c.name).map (·.name)
    let columns := ((number ["columns"]).or ((String.join typed).toNat?)).getD 1
    let merges := has chosen ["m", "merge"]
    let across := has chosen ["a", "across"]
    if columns = 0 || merges && (1 < columns || across) then
      warn "pr: cannot specify number of columns"
      return 1
    let length := (number ["l", "length"]).getD 66
    let separator : Option String :=
      match (chosen.filter fun c =>
          ["s", "S", "separator", "sep-string"].contains c.name).getLast? with
      | some ⟨n, v⟩ => if n == "s" || n == "separator" then some (v.getD "\t") else some (v.getD "")
      | none => if has chosen ["J", "join-lines"] then some "\t" else none
    let numbered := (chosen.filter fun c => c.name == "n" || c.name == "number-lines").getLast?
    let plan : Pages.Plan := {
      length := length
      width := ((number ["W", "page-width"]).or (number ["w", "width"])).getD 72
      columns := if merges then Nat.max 1 names.length else columns
      merges := merges, across := across
      headed := !has chosen ["t", "T", "omit-header", "omit-pagination"] && decide (10 < length)
      doubled := has chosen ["d", "double-space"]
      separator := separator
      cuts := has chosen ["W", "page-width"] ||
        (separator.isSome && has chosen ["w", "width"] && !has chosen ["J", "join-lines"])
      pads := !has chosen ["s", "separator"] && !has chosen ["J", "join-lines"]
      number := numbered.map fun c =>
        match (c.value.getD "").toList with
        | [] => ('\t', 5)
        | m :: rest =>
          if isDigit m then ('\t', (takeDigits 10 (m :: rest) 0 0).1)
          else (m, if rest.isEmpty then 5 else (takeDigits 10 rest 0 0).1)
      first := ((valueOf? chosen ["N", "first-line-number"]).bind (Machine.number? 10)).getD 1
      indent := (number ["o", "indent"]).getD 0
      pages := (((valueOf? chosen ["pages"]).bind range?).or start).getD (1, none) }
    let now ← match ← Asking.ask .now with
      | .number n => pure n
      | _ => pure 0
    let present : Int := (epoch + now / 1000000 : Nat)
    let format := (valueOf? chosen ["D", "date-format"]).getD "%Y-%m-%d %H:%M"
    let dateOf (seconds : Int) : String := { seconds := seconds : Instant }.text format
    let title := valueOf? chosen ["h", "header"]
    let mut code := 0
    let mut inputs : List (List String) := []
    for name in orStandard names do
      match ← openInput name with
      | none => code := 1
      | some d => do
        let text ← readAll d
        if name != "-" then close d
        let time : Int ← do
          if name == "-" then pure present
          else
            match ← inspect? name true with
            | some i => pure ((epoch : Int) + i.changed / 1000000)
            | none => pure present
        if merges then inputs := inputs ++ [lines text]
        else
          say (plan.text (dateOf time) (title.getD (if name == "-" then "" else name)) (lines text))
    if merges then say (plan.merged (dateOf present) inputs)
    finish code

end StreamSupervisor.Tool
