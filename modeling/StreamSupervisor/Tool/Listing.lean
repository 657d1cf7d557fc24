import StreamSupervisor.Text.Glob
import StreamSupervisor.Text.Version
import StreamSupervisor.Tool.Amounts
import StreamSupervisor.Tool.Facts
import StreamSupervisor.Tool.Paths

/-! # Listing

Programs that show the names of files, and what is known about files.
-/

namespace StreamSupervisor.Tool

open Machine

/-! ## Facts about files -/

/-- The kind and the permissions of a file, as letters. -/
def permissionText (i : FileInfo) : String :=
  let type := match i.kind with
    | .directory => "d"
    | .link => "l"
    | .characters => "c"
    | .queue => "p"
    | .plain => "-"
  type ++ rightsText i.mode

/-- How many blocks of half a kilobyte a file takes. -/
def blocksOf (i : FileInfo) : Nat :=
  match i.kind with
  | .plain | .directory => (i.size + 4095) / 4096 * 8
  | _ => 0

def ownerOf (i : FileInfo) : String := if i.mine then "user" else "root"

def ownerNumber (i : FileInfo) : Nat := if i.mine then 1000 else 0

/-! ## Listing names -/

/-- The order in which names are shown. -/
inductive NameOrder where
  | name
  | none
  | time
  | size
  | ending
  | version
  | width
deriving DecidableEq

/-- How names are laid out. -/
inductive NameLayout where
  | long
  | single
  | columns
  | across
  | commas
deriving DecidableEq

/-- With what the names of some kinds of files are marked. -/
inductive NameMark where
  | none
  | slash
  | kinds
  | all
deriving DecidableEq

structure ListPlan where
  /-- Whether hidden names are shown: all of them, or all but the two of each directory. -/
  all : Bool
  almost : Bool
  ignored : List String
  hidden : List String
  noBackups : Bool
  selves : Bool
  recursive : Bool
  order : NameOrder
  reversed : Bool
  directoriesFirst : Bool
  layout : NameLayout
  mark : NameMark
  nodes : Bool
  sizes : Bool
  numeric : Bool
  owner : Bool
  group : Bool
  /-- Whether sizes are shown with units: powers of two, or of ten. -/
  units : Option Amounts.Scale
  /-- How many bytes a unit of size has, where a size was asked for. -/
  unit : Option Nat
  /-- The formats of recent times and of others. -/
  recent : String
  other : String
  follow : Bool
  followFirst : Bool
  quoting : String
  width : Nat
  tab : Nat
  ending : String

/-- A name to be shown. -/
structure Entry where
  name : String
  path : String
  info : FileInfo
  /-- Where a link leads. -/
  target : Option String := none
  targetInfo : Option FileInfo := none

/-- Quote a name in one of the known styles. -/
def quotedName (style name : String) : String :=
  match style with
  | "c" => "\"" ++ cEscaped true name ++ "\""
  | "escape" => cEscaped false name
  | "shell" | "shell-escape" => Quoting.ifNeeded name
  | "shell-always" | "shell-escape-always" => Quoting.single name
  | "c-maybe" => if cEscaped true name == name then name else "\"" ++ cEscaped true name ++ "\""
  | "locale" => "\x27" ++ cEscaped false name ++ "\x27"
  | "clocale" => "\"" ++ cEscaped true name ++ "\""
  | "marked" => name.map fun c => if 32 ≤ c.toNat && c.toNat < 127 then c else '?'
  | _ => name
where
  cEscaped (quotes : Bool) (s : String) : String :=
    String.join (s.toList.map fun c =>
      match c with
      | '\\' => "\\\\"
      | '"' => if quotes then "\\\"" else "\""
      | ' ' => if quotes then " " else "\\ "
      | '\n' => "\\n"
      | '\t' => "\\t"
      | '\r' => "\\r"
      | '\x07' => "\\a"
      | '\x08' => "\\b"
      | '\x0c' => "\\f"
      | '\x0b' => "\\v"
      | c =>
        if 32 ≤ c.toNat && c.toNat < 127 then c.toString
        else
          let ds := digits 8 c.toNat
          "\\" ++ String.ofList (List.replicate (3 - ds.length) '0') ++ ds)

/-- The mark behind the name of a file. -/
def NameMark.of (m : NameMark) (i : FileInfo) : String :=
  match m with
  | .none => ""
  | .slash => if i.kind = .directory then "/" else ""
  | m =>
    match i.kind with
    | .directory => "/"
    | .link => "@"
    | .queue => "|"
    | .plain => if m = .all && i.mode &&& 73 != 0 then "*" else ""
    | .characters => ""

def ListPlan.shownName (p : ListPlan) (e : Entry) : String := quotedName p.quoting e.name

/-- A size in the units that were asked for; counted in blocks, parts of one count. -/
def ListPlan.sizeText (p : ListPlan) (bytes : Nat) (usual : Nat) : String :=
  match p.units with
  | some scale => Amounts.withUnit scale .fromZero none ⟨bytes, 1⟩
  | none =>
    let unit := p.unit.getD usual
    toString ((bytes + unit - 1) / unit)

def padLeft (width : Nat) (s : String) : String :=
  String.ofList (List.replicate (width - s.length) ' ') ++ s

def padRight (width : Nat) (s : String) : String :=
  s ++ String.ofList (List.replicate (width - s.length) ' ')

def widest (l : List String) : Nat := l.foldl (fun n s => Nat.max n s.length) 0

/-- When a file was changed, in a recent or in another format. -/
def ListPlan.timeText (p : ListPlan) (now : Instant) (i : FileInfo) : String :=
  let t := changeTime now.zone i.changed
  let isRecent := t.seconds ≤ now.seconds && now.seconds - 31556952 / 2 < t.seconds
  t.text (if isRecent then p.recent else p.other)

/-- The columns of a long line, without the name. -/
def ListPlan.columns (p : ListPlan) (now : Instant) (e : Entry) : List String :=
  let i := e.info
  let owner := if p.numeric then toString (ownerNumber i) else ownerOf i
  let size := if i.kind = .characters then
      toString i.device.1 ++ ", " ++ toString i.device.2
    else p.sizeText i.size 1
  [if p.nodes then toString (i.node + 1000) else "",
    if p.sizes then p.sizeText (blocksOf i * 512) 1024 else "",
    permissionText i, toString i.names, if p.owner then owner else "",
    if p.group then owner else "", size, p.timeText now i]

/-- The lines of a long listing. -/
def ListPlan.longLines (p : ListPlan) (now : Instant) (es : List Entry) : List String :=
  let rows := es.map fun e => (e, p.columns now e)
  let width (k : Nat) : Nat := widest (rows.map fun r => (r.2[k]?).getD "")
  let left := [0, 1, 3, 6]
  let widths := (List.range 8).map width
  rows.map fun (e, cells) =>
    let shown := cells.zipIdx.filterMap fun (c, k) =>
      let w := (widths[k]?).getD 0
      if w = 0 then none
      else some (if left.contains k then padLeft w c else if k = 7 then c else padRight w c)
    let tail := match e.target with
      | some t => " -> " ++ quotedName p.quoting t ++
          ((e.targetInfo.map p.mark.of).getD "")
      | none => p.mark.of e.info
    " ".intercalate shown ++ " " ++ p.shownName e ++ tail

/-- A name with what stands before and behind it. -/
def ListPlan.shortName (p : ListPlan) (es : List Entry) (aligned : Bool) (e : Entry) : String :=
  let node (e : Entry) : String := toString (e.info.node + 1000)
  let size (e : Entry) : String := p.sizeText (blocksOf e.info * 512) 1024
  let put (f : Entry → String) : String :=
    (if aligned then padLeft (widest (es.map f)) (f e) else f e) ++ " "
  (if p.nodes then put node else "") ++ (if p.sizes then put size else "") ++
    p.shownName e ++ p.mark.of e.info

/-- Fill up from one column to another, with tabs where they fit. -/
def indentTo (tab stop : Nat) : Nat → Nat → String
  | 0, place => String.ofList (List.replicate (stop - place) ' ')
  | n + 1, place =>
    if stop ≤ place then ""
    else if tab != 0 && (place + 1) / tab < stop / tab then
      "\t" ++ indentTo tab stop n (place + tab - place % tab)
    else " " ++ indentTo tab stop n (place + 1)

/-- Names in columns, as many as fit. -/
def ListPlan.table (p : ListPlan) (names : List String) : List String :=
  let count := names.length
  let cells := names.toArray
  let across := p.layout = .across
  let rowsFor (cols : Nat) : Nat := (count + cols - 1) / cols
  let widthsFor (cols : Nat) : List Nat :=
    let rows := rowsFor cols
    (List.range cols).map fun c =>
      (List.range rows).foldl (fun n r =>
        let k := if across then r * cols + c else c * rows + r
        match cells[k]? with
        | some s => Nat.max n (s.length + (if c + 1 = cols then 0 else 2))
        | none => n) 0
  let fits (cols : Nat) : Bool :=
    let ws := widthsFor cols
    let least := ws.zipIdx.map fun (w, c) => Nat.max w (if c + 1 = cols then 1 else 3)
    decide (least.foldl (· + ·) 0 < p.width)
  let most := Nat.max 1 (Nat.min count (p.width / 3))
  let cols := ((List.range most).reverse.find? fun c => fits (c + 1)).getD 0 + 1
  let ws := (widthsFor cols).zipIdx.map fun (w, c) => Nat.max w (if c + 1 = cols then 1 else 3)
  let rows := rowsFor cols
  (List.range rows).map fun r =>
    let items := (List.range cols).filterMap fun c =>
      (cells[if across then r * cols + c else c * rows + r]?).map fun s => (s, c)
    let start (c : Nat) : Nat := (ws.take c).foldl (· + ·) 0
    (items.foldl (fun (text, place) (s, c) =>
      let at_ := start c
      (text ++ indentTo p.tab at_ (at_ + 1) place ++ s, at_ + s.length)) ("", 0)).1

/-- Names with commas between them, in lines that are not too long. -/
def commaLines (width : Nat) : List String → String → List String
  | [], line => if line.isEmpty then [] else [line]
  | s :: rest, line =>
    if line.isEmpty then commaLines width rest s
    else if line.length + 2 + s.length < width then commaLines width rest (line ++ ", " ++ s)
    else (line ++ ",") :: commaLines width rest s

/-- Put entries in order. -/
def ListPlan.inOrder (p : ListPlan) (es : List Entry) : List Entry :=
  let byName (a b : Entry) : Bool := bytesBefore a.name b.name
  let ending (e : Entry) : String :=
    match (e.name.splitOn ".").reverse with
    | last :: _ :: _ => "." ++ last
    | _ => ""
  let before (a b : Entry) : Bool :=
    match p.order with
    | .name | .none => byName a b
    | .time => b.info.changed < a.info.changed || a.info.changed == b.info.changed && byName a b
    | .size => b.info.size < a.info.size || a.info.size == b.info.size && byName a b
    | .ending =>
      bytesBefore (ending a) (ending b) || ending a == ending b && byName a b
    | .version =>
      match Version.order a.name.toList b.name.toList with
      | .lt => true
      | .gt => false
      | .eq => byName a b
    | .width =>
      a.name.length < b.name.length || a.name.length == b.name.length && byName a b
  let es := if p.order = .none then es
    else
      let l := es.mergeSort fun a b => !before b a
      if p.reversed then l.reverse else l
  if p.directoriesFirst && p.order != .none then
    let isDirectory (e : Entry) : Bool :=
      e.info.kind = .directory || e.targetInfo.any (·.kind = .directory)
    es.filter isDirectory ++ es.filter fun e => !isDirectory e
  else es

/-- Show some entries. -/
def ListPlan.show (p : ListPlan) (now : Instant) (es : List Entry) : Chore Unit := do
  let lines : List String := match p.layout with
    | .long => p.longLines now es
    | .single => es.map (p.shortName es true)
    | .columns | .across =>
      if p.width = 0 then ["  ".intercalate (es.map (p.shortName es true))]
      else p.table (es.map (p.shortName es true))
    | .commas => commaLines p.width (es.map (p.shortName es false)) ""
  for l in lines do say (l ++ p.ending)

/-- What is known about a name. -/
def ListPlan.entry (p : ListPlan) (path name : String) (follow : Bool) :
    Chore (Except Refusal Entry) := do
  let info ← do
    if follow then
      match ← inspect path true with
      | .ok i => pure (.ok i)
      | .error _ => inspect path false
    else inspect path false
  match info with
  | .error why => pure (.error why)
  | .ok i =>
    if i.kind = .link then
      let target? ← askText (.readLink path)
      let target := match target? with
        | .ok t => some t
        | .error _ => none
      let behind ← inspect? path true
      pure (.ok { name := name, path := path, info := i
                  target := if p.layout = .long then target else none, targetInfo := behind })
    else pure (.ok { name := name, path := path, info := i })

/-- Whether a name is shown in the listing of a directory. -/
def ListPlan.shows (p : ListPlan) (name : String) : Bool :=
  let matching (patterns : List String) : Bool :=
    patterns.any fun g => Glob.isMatch (Glob.ofText g) name.toList
  (p.all || p.almost || !name.startsWith ".") &&
    !(matching p.ignored) && !(!(p.all || p.almost) && matching p.hidden) &&
    !(p.noBackups && name.endsWith "~")

/-- List directories, and those within them where asked. The code is the worst one met. -/
def ListPlan.directories (p : ListPlan) (now : Instant) : Nat → List String → Bool → Bool →
    Chore (Nat × Bool)
  | 0, _, _, first => pure (0, first)
  | _, [], _, first => pure (0, first)
  | n + 1, path :: rest, named, first => do
    let (code, first) ← do
      match ← askNames (.list path) with
      | .error why => do
        warn ("ls: cannot open directory \x27" ++ path ++ "\x27: " ++ why.text)
        pure (if named && p.recursive then 1 else 2, first)
      | .ok names => do
        if named then
          say ((if first then "" else p.ending) ++ quotedName p.quoting path ++ ":" ++ p.ending)
        let names := (if p.all then [".", ".."] else []) ++ names.filter p.shows
        let mut es : List Entry := []
        for name in names do
          match ← p.entry (joinPath path name) name p.follow with
          | .ok e => es := es ++ [e]
          | .error _ => pure ()
        let shown := p.inOrder es
        if p.layout = .long || p.sizes then
          let total := shown.foldl (fun n e => n + blocksOf e.info) 0
          say ("total " ++ p.sizeText (total * 512) 1024 ++ p.ending)
        p.show now shown
        if p.recursive then
          let within := shown.filter fun e =>
            e.info.kind = .directory && e.name != "." && e.name != ".."
          p.directories now n (within.map (·.path)) true false
        else pure (0, false)
    let (more, first) ← p.directories now n rest named first
    pure (Nat.max code more, first)

def listLetters : String := "abcdfghiklmnopqrstuvw:xABCDFGHI:LNQRST:UXZ1"

def listChecks : List Check :=
  let choices := ["always", "yes", "force", "never", "no", "none", "auto", "tty", "if-tty"]
  [⟨["w", "width", "T", "tabsize"], 2, fun v => (Machine.number? 0 v).any (0 ≤ ·)⟩,
    ⟨["block-size"], 2, isBlockSize⟩,
    ⟨["time-style"], 2, fun v => v.startsWith "+" || isOneOf ["full-iso", "long-iso", "iso",
      "locale", "posix-full-iso", "posix-long-iso", "posix-iso", "posix-locale"] v⟩,
    .words ["color", "classify", "hyperlink"] choices,
    .words ["sort"] ["none", "time", "size", "extension", "version", "width", "name"],
    .words ["time"] ["atime", "access", "use", "ctime", "status", "birth", "creation", "mtime",
      "modification"],
    .words ["format"] ["verbose", "long", "commas", "horizontal", "across", "vertical",
      "single-column"],
    .words ["indicator-style"] ["none", "slash", "file-type", "classify"],
    .words ["quoting-style"] ["literal", "shell", "shell-always", "shell-escape",
      "shell-escape-always", "c", "c-maybe", "escape", "locale", "clocale"]]

/-- The last choice that settles something. -/
def lastOf? {α : Type} (chosen : List Choice) (f : Choice → Option α) : Option α :=
  (chosen.filterMap f).getLast?

/-- The plan that options describe. -/
def listPlanOf (chosen : List Choice) : ListPlan :=
  let word (c : Choice) (words : List String) : String := wordFor words (c.value.getD "")
  let layout := (lastOf? chosen fun c =>
    match c.name with
    | "l" | "g" | "n" | "o" | "full-time" | "numeric-uid-gid" => some NameLayout.long
    | "C" => some .columns
    | "x" => some .across
    | "m" => some .commas
    | "format" =>
      match word c ["verbose", "long", "commas", "horizontal", "across", "vertical",
        "single-column"] with
      | "verbose" | "long" => some .long
      | "commas" => some .commas
      | "horizontal" | "across" => some .across
      | "vertical" => some .columns
      | _ => some .single
    | _ => none).getD .single
  let isSingle := (chosen.filter fun c => ["1", "C", "x", "m"].contains c.name).getLast?.any
    (·.name == "1")
  let layout := if isSingle && layout != .long then .single else layout
  let order := (lastOf? chosen fun c =>
    match c.name with
    | "f" | "U" => some NameOrder.none
    | "t" => some .time
    | "S" => some .size
    | "X" => some .ending
    | "v" => some .version
    | "sort" =>
      match word c ["none", "time", "size", "extension", "version", "width", "name"] with
      | "none" => some .none
      | "time" => some .time
      | "size" => some .size
      | "extension" => some .ending
      | "version" => some .version
      | "width" => some .width
      | _ => some .name
    | _ => none).getD
      (if has chosen ["c", "u"] && layout != .long then .time else .name)
  let mark := (lastOf? chosen fun c =>
    match c.name with
    | "p" => some NameMark.slash
    | "file-type" => some .kinds
    | "F" => some .all
    | "classify" =>
      if c.value.all fun v => isOneOf ["always", "yes", "force"] v then some .all else some .none
    | "indicator-style" =>
      match word c ["none", "slash", "file-type", "classify"] with
      | "slash" => some .slash
      | "file-type" => some .kinds
      | "classify" => some .all
      | _ => some .none
    | _ => none).getD .none
  let style := (lastOf? chosen fun c =>
    match c.name with
    | "full-time" => some "full-iso"
    | "time-style" => c.value.map fun v => if v.startsWith "posix-" then "locale" else v
    | _ => none).getD "locale"
  let (recent, other) : String × String :=
    if style.startsWith "+" then
      match (dropChars 1 style).splitOn "\n" with
      | [a] => (a, a)
      | a :: b :: _ => (b, a)
      | [] => ("", "")
    else
      match wordFor ["full-iso", "long-iso", "iso", "locale"] style with
      | "full-iso" => ("%Y-%m-%d %H:%M:%S.%N %z", "%Y-%m-%d %H:%M:%S.%N %z")
      | "long-iso" => ("%Y-%m-%d %H:%M", "%Y-%m-%d %H:%M")
      | "iso" => ("%m-%d %H:%M", "%Y-%m-%d ")
      | _ => ("%b %e %H:%M", "%b %e  %Y")
  let units := lastOf? chosen fun c =>
    match c.name with
    | "h" | "human-readable" => some Amounts.Scale.powers
    | "si" => some .thousands
    | "block-size" =>
      if c.value == some "human-readable" then some .powers
      else if c.value == some "si" then some .thousands
      else none
    | _ => none
  let quoting := (lastOf? chosen fun c =>
    match c.name with
    | "b" | "escape" => some "escape"
    | "N" | "literal" => some "literal"
    | "Q" | "quote-name" => some "c"
    | "q" | "hide-control-chars" => some "marked"
    | "quoting-style" =>
      some (word c ["literal", "shell", "shell-always", "shell-escape",
        "shell-escape-always", "c", "c-maybe", "escape", "locale", "clocale"])
    | _ => none).getD "literal"
  let values (ns : List String) : List String :=
    (chosen.filter fun c => ns.contains c.name).filterMap (·.value)
  let number (ns : List String) (d : Nat) : Nat :=
    (((valueOf? chosen ns).bind (Machine.number? 0)).map Int.toNat).getD d
  let all := has chosen ["a", "all", "f"]
  { all := all
    almost := has chosen ["A", "almost-all"]
    ignored := values ["I", "ignore"]
    hidden := values ["hide"]
    noBackups := has chosen ["B", "ignore-backups"]
    selves := has chosen ["d", "directory"]
    recursive := has chosen ["R", "recursive"]
    order := order
    reversed := has chosen ["r", "reverse"]
    directoriesFirst := has chosen ["group-directories-first"]
    layout := layout
    mark := mark
    nodes := has chosen ["i", "inode"]
    sizes := has chosen ["s", "size"]
    numeric := has chosen ["n", "numeric-uid-gid"]
    owner := !has chosen ["g"]
    group := !has chosen ["o", "G", "no-group"]
    units := units
    unit := ((valueOf? chosen ["block-size"]).bind Amounts.unit?)
    recent := recent
    other := other
    follow := has chosen ["L", "dereference"]
    followFirst := has chosen ["H", "dereference-command-line", "L", "dereference"] ||
      !(layout = .long || has chosen ["d", "directory"] || mark = .all)
    quoting := quoting
    width := number ["w", "width"] 80
    tab := number ["T", "tabsize"] 8
    ending := if has chosen ["zero"] then "\x00" else "\n" }

/-- List files. Unless another layout is asked for, the names stand in lines or in columns. -/
def listIn (usual quoted : List Choice) (args environment : List String) : Chore Nat :=
  withOptions { letters := listLetters, long := [("all", .none), ("almost-all", .none),
    ("author", .none), ("escape", .none), ("block-size", .required), ("ignore-backups", .none),
    ("color", .optional), ("directory", .none), ("classify", .optional), ("dired", .none),
    ("file-type", .none), ("format", .required), ("full-time", .none),
    ("group-directories-first", .none), ("no-group", .none), ("human-readable", .none),
    ("si", .none), ("dereference-command-line", .none),
    ("dereference-command-line-symlink-to-dir", .none), ("hide", .required),
    ("hyperlink", .optional), ("indicator-style", .required), ("inode", .none),
    ("ignore", .required), ("kibibytes", .none), ("dereference", .none),
    ("numeric-uid-gid", .none), ("literal", .none), ("hide-control-chars", .none),
    ("show-control-chars", .none), ("quote-name", .none), ("quoting-style", .required),
    ("reverse", .none), ("recursive", .none), ("size", .none), ("sort", .required),
    ("time", .required), ("time-style", .required), ("tabsize", .required), ("width", .required),
    ("context", .none), ("zero", .none)], checks := listChecks } 2 args fun chosen names => do
    let now ← present (Zone.ofText ((environmentValue? environment "TZ").getD ""))
    let p := listPlanOf (usual ++ quoted ++ chosen)
    let columns := ((environmentValue? environment "COLUMNS").bind String.toNat?).getD 80
    let p := if has chosen ["w", "width"] then p else { p with width := columns }
    let mut code := 0
    let mut plain : List Entry := []
    let mut directories : List Entry := []
    for name in (if names.isEmpty then ["."] else names) do
      /- A link that leads to a directory is followed, unless links are shown themselves. -/
      let behind ← inspect? name true
      let follow := p.followFirst && (p.follow || behind.any (·.kind = .directory) ||
        has chosen ["H", "dereference-command-line"])
      match ← p.entry name name follow with
      | .ok e =>
        if e.info.kind = .directory && !p.selves then directories := directories ++ [e]
        else plain := plain ++ [e]
      | .error why => do
        warn ("ls: cannot access \x27" ++ name ++ "\x27: " ++ why.text)
        code := 2
    if !plain.isEmpty then p.show now (p.inOrder plain)
    let named := decide (1 < names.length) || p.recursive
    let (more, _) ← p.directories now 100000 ((p.inOrder directories).map (·.path)) named
      plain.isEmpty
    finish (Nat.max code more)

def list : List String → List String → Chore Nat := listIn [] []

/-! ## Describing files -/

/-- What is known about a file, by a letter. -/
def factOf (name : String) (i : FileInfo) (target : Option String) (marked : Bool) (c : Char) :
    Option String :=
  let time := changeTime {} i.changed
  let full := time.text "%Y-%m-%d %H:%M:%S.%N %z"
  match c with
  | 'n' => some name
  | 'N' =>
    some (Quoting.single name ++ (match target with
      | some t => " -> " ++ Quoting.single t
      | none => ""))
  | 's' => some (toString i.size)
  | 'a' => some ((if marked then "0" else "") ++ digits 8 i.mode)
  | 'A' => some (permissionText i)
  | 'b' => some (toString (blocksOf i))
  | 'B' => some "512"
  | 'd' => some "2049"
  | 'D' => some "801"
  | 'f' =>
    let kind := match i.kind with
      | .directory => 16384
      | .link => 40960
      | .characters => 8192
      | .queue => 4096
      | .plain => 32768
    some ((if marked then "0x" else "") ++ digits 16 (kind + i.mode))
  | 'F' => some (kindText i)
  | 'h' => some (toString i.names)
  | 'i' => some (toString (i.node + 1000))
  | 'm' => some "/"
  | 'o' => some "4096"
  | 'u' | 'g' => some (toString (ownerNumber i))
  | 'U' | 'G' => some (ownerOf i)
  | 't' => some (digits 16 i.device.1)
  | 'T' => some (digits 16 i.device.2)
  | 'w' => some "-"
  | 'W' => some "0"
  | 'x' | 'y' | 'z' => some full
  | 'X' | 'Y' | 'Z' => some (toString time.seconds)
  | 'C' => some "?"
  | _ => none

/-- Lay out a fact as flags, a width and a precision ask. -/
def laidOut (flags : List Char) (width : Nat) (places : Option Nat) (numeric : Bool)
    (text : String) : String :=
  let text := match places with
    | some k => if numeric then text else String.ofList (text.toList.take k)
    | none => text
  if flags.contains '-' then padRight width text
  else if flags.contains '0' && numeric then
    String.ofList (List.replicate (width - text.length) '0') ++ text
  else padLeft width text

/-- Fill the facts about a file into a format. -/
def describe (escapes : Bool) (fact : Bool → Char → Option String) :
    Nat → List Char → List String → String
  | 0, _, acc => String.join acc.reverse
  | n + 1, cs, acc =>
    match cs with
    | [] => String.join acc.reverse
    | '%' :: rest =>
      let isFlag (c : Char) : Bool := "#0- +\x27I".toList.contains c
      let flags := rest.takeWhile isFlag
      let after := rest.drop flags.length
      let ws := after.takeWhile isDigit
      let after := after.drop ws.length
      let (places, after) : Option Nat × List Char := match after with
        | '.' :: more =>
          let ds := more.takeWhile isDigit
          (some (takeDigits 10 ds 0 0).1, more.drop ds.length)
        | more => (none, more)
      match after with
      | [] => String.join ("%" :: acc).reverse
      | '%' :: more => describe escapes fact n more ("%" :: acc)
      | c :: more =>
        let text := (fact (flags.contains '#') c).getD "?"
        let numeric := "sabBdDfhiotTugWXYZ".toList.contains c
        let shown := laidOut flags (takeDigits 10 ws 0 0).1 places numeric text
        describe escapes fact n more (shown :: acc)
    | '\\' :: c :: rest =>
      if !escapes then describe escapes fact n (c :: rest) ("\\" :: acc)
      else
        let simple := [('a', '\x07'), ('b', '\x08'), ('e', '\x1b'), ('f', '\x0c'), ('n', '\n'),
          ('r', '\r'), ('t', '\t'), ('v', '\x0b')]
        match simple.lookup c with
        | some d => describe escapes fact n rest (d.toString :: acc)
        | none =>
          if between '0' '7' c then
            let ds := ((c :: rest).take 3).takeWhile (between '0' '7')
            describe escapes fact n ((c :: rest).drop ds.length)
              ((Char.ofNat ((takeDigits 8 ds 0 0).1 % 256)).toString :: acc)
          else describe escapes fact n rest (c.toString :: acc)
    | c :: rest => describe escapes fact n rest (c.toString :: acc)

/-- The usual description of a file. -/
def usualFormat (i : FileInfo) : String :=
  "  File: %N\n  Size: %-10s\tBlocks: %-10b IO Block: %-6o %F\n" ++
    (if i.kind = .characters then
      "Device: 8,1\tInode: %-10i  Links: %-5h Device type: %t,%T\n"
    else "Device: 8,1\tInode: %-10i  Links: %h\n") ++
    "Access: (%04a/%10A)  Uid: (%5u/%8U)   Gid: (%5g/%8G)\n" ++
    "Access: %x\nModify: %y\nChange: %z\n Birth: %w"

/-- What is known about a file system, by a letter. -/
def spaceFact (name : String) (c : Char) : Option String :=
  match c with
  | 'n' => some name
  | 'a' => some "10000000"
  | 'b' => some "20000000"
  | 'c' => some "5000000"
  | 'd' => some "4000000"
  | 'f' => some "11000000"
  | 'i' => some "0"
  | 'l' => some "255"
  | 's' | 'S' => some "4096"
  | 't' => some "794c7630"
  | 'T' => some "overlayfs"
  | _ => none

def stat (args : List String) : Chore Nat :=
  withOptions { letters := "c:fLt", long := [("format", .required),
    ("dereference", .none),
    ("file-system", .none), ("terse", .none), ("printf", .required), ("cached", .required)], checks := [
      .words ["cached"] ["default", "never", "always"]] }
    1 args fun chosen names => do
    if names.isEmpty then do
      warn "stat: missing operand"
      pure 1
    else do
      let given := (chosen.filter fun c => ["c", "format", "printf"].contains c.name).getLast?
      let escapes := given.any (·.name == "printf")
      let ending := if escapes then "" else "\n"
      let whole := has chosen ["f", "file-system"]
      let terse := has chosen ["t", "terse"]
      let mut code := 0
      for name in names do
        let failed (why : Refusal) : Chore Unit :=
          warn ("stat: cannot statx \x27" ++ name ++ "\x27: " ++ why.text)
        if name == "-" && whole then
          warn "stat: using \x27-\x27 to denote standard input does not work in file system mode"
          code := 1
        else
          let info ← if name == "-" then
              match ← Asking.ask (.inspectOpen 0) with
              | .info i => pure (.ok i)
              | _ => pure (.error .badDescriptor)
            else inspect name (has chosen ["L", "dereference"] || whole)
          match info with
          | .error why => do
            failed why
            code := 1
          | .ok i =>
            let target ← if i.kind = .link then askText (.readLink name)
              else pure (.error .invalid)
            let target := match target with
              | .ok t => some t
              | .error _ => none
            let format := match given with
              | some c => c.value.getD ""
              | none =>
                if whole then
                  (if terse then "%n %i %l %t %s %S %b %f %a %c %d"
                  else "  File: \"%n\"\n    ID: %-8i Namelen: %-7l Type: %T\n" ++
                    "Block size: %-10s Fundamental block size: %S\n" ++
                    "Blocks: Total: %-10b Free: %-10f Available: %a\n" ++
                    "Inodes: Total: %-10c Free: %d")
                else if terse then "%n %s %b %f %u %g %D %i %h %t %T %X %Y %Z %W %o"
                else usualFormat i
            let fact (marked : Bool) (c : Char) : Option String :=
              if whole then spaceFact name c
              else if given.isNone && c == 'N' && target.isNone then some name
              else if given.isNone && c == 'N' then
                some (name ++ " -> " ++ target.getD "")
              else factOf name i target marked c
            say (describe escapes fact (format.length + 1) format.toList [] ++ ending)
      finish code

end StreamSupervisor.Tool
