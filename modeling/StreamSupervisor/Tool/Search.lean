import StreamSupervisor.Text.Lookaround
import StreamSupervisor.Tool.Counting
import StreamSupervisor.Tool.Paths

/-! # Searching lines

The lines of files in which one of some patterns occurs, shown, counted or only reported by
the exit code.
-/

namespace StreamSupervisor.Tool

open Machine

namespace Search

/-- How lines are judged. -/
structure Plan where
  patterns : List Regex
  ignoreCase : Bool
  wholeLine : Bool
  wholeWord : Bool
  invert : Bool
  /-- Whether the preferred match counts, and not the longest. -/
  preferred : Bool := false

/-- The expression that matches a text only. -/
def literal (s : String) : Regex :=
  s.toList.foldl (fun r c => .sequence r (.atom (.exactly c))) .empty

/-- Whether a match is bounded as it has to be. -/
def Plan.accepts (p : Plan) (from_ to_ : Regex.At) : Bool :=
  if p.wholeLine then from_.place == 0 && to_.rest.isEmpty
  else if p.wholeWord then !from_.before.any Regex.isWord && !to_.rest.head?.any Regex.isWord
  else true

/-- The match of an expression that begins at a place and is bounded as it has to be. -/
def Plan.matchAt? (p : Plan) (r : Regex) (x : Regex.At) : Option Regex.At :=
  let all := Regex.ends p.ignoreCase Regex.depth r x
  let bounded := if p.wholeLine || p.wholeWord then all.filter (p.accepts x) else all
  if p.preferred then bounded.head?
  else bounded.foldl (fun best y =>
    match best with
    | none => some y
    | some b => if b.place < y.place then some y else best) none

/-- The first match of one of the patterns from a place on. -/
def Plan.find? (p : Plan) : List Char → Regex.At → Option (Regex.At × Regex.At)
  | [], x => (here x).map fun y => (x, y)
  | _ :: rest, x =>
    match here x with
    | some y => some (x, y)
    | none => p.find? rest x.next
where
  here (x : Regex.At) : Option Regex.At :=
    p.patterns.foldl (fun best r =>
      match p.matchAt? r x, best with
      | some y, some b => if b.place < y.place then some y else best
      | some y, none => some y
      | none, best => best) none

def Plan.selects (p : Plan) (line : String) : Bool :=
  (p.find? line.toList (Regex.start line)).isSome != p.invert

/-- All matches in a line that are not empty: where they begin and end. -/
def Plan.matches (p : Plan) : Nat → Regex.At → List (Nat × Nat)
  | 0, _ => []
  | n + 1, x =>
    match p.find? x.rest x with
    | none => []
    | some (a, b) =>
      let start := match b.groups.lookup 0 with
        | some (place, _) => place
        | none => a.place
      let b := { b with groups := b.groups.filter fun g => g.1 != 0 }
      if b.place ≤ start then
        if b.rest.isEmpty then [] else p.matches n (if a.place < b.place then b else b.next)
      else (start, b.place) :: p.matches n b

/-- What is done with texts that are not made of lines. -/
inductive Rawness where
  | told
  | taken
  | skipped

/-- The colours of matches, of names, of numbers and of marks. -/
structure Palette where
  selected : String := "01;31"
  context : String := "01;31"
  name : String := "35"
  number : String := "32"
  offset : String := "32"
  mark : String := "36"
  clears : Bool := true

/-- What of the selected lines is shown. -/
structure Showing where
  quiet : Bool
  /-- Whether all that is shown is lost. -/
  unseen : Bool := false
  count : Bool
  names : Bool
  namesWithout : Bool
  only : Bool
  numbers : Bool
  byteOffsets : Bool
  withName : Bool
  most : Option Nat
  before : Nat
  after : Nat
  /-- What stands between groups of lines, where there are groups. -/
  between : Option String
  zero : Bool
  nullNames : Bool
  tabs : Bool
  rawness : Rawness
  palette : Option Palette
  label : String

/-- Whether nothing is shown of the lines themselves. -/
def Showing.hidesLines (s : Showing) : Bool := s.quiet || s.unseen || s.count || s.names || s.namesWithout

/-- Whether the first selected line settles everything. -/
def Showing.endsEarly (s : Showing) : Bool := s.quiet || s.unseen || s.names || s.namesWithout

def Showing.mark (s : Showing) : String := if s.zero then "\x00" else "\n"

/-- A text in a colour that is picked from the palette. -/
def Showing.painted (s : Showing) (pick : Palette → String) (text : String) : String :=
  match s.palette with
  | none => text
  | some p =>
    let clear := if p.clears then "\x1b[K" else ""
    let code := pick p
    if code.isEmpty then text
    else "\x1b[" ++ code ++ "m" ++ clear ++ text ++ "\x1b[m" ++ clear

/-- A name with what stands behind it. -/
def Showing.named (s : Showing) (name sep : String) : String :=
  s.painted (·.name) name ++ (if s.nullNames then "\x00" else s.painted (·.mark) sep)

/-- A line with its number from one on and its place in the text. -/
structure Line where
  number : Nat
  offset : Nat
  text : String

/-- What stands in front of a line. -/
def Showing.head (s : Showing) (name : String) (width : Nat) (sep : String) (l : Line) : String :=
  let mark := s.painted (·.mark) sep
  let wide (pick : Palette → String) (n : Nat) : String :=
    let ds := toString n
    s.painted pick (String.ofList (List.replicate (width - ds.length) ' ') ++ ds) ++ mark
  let parts := (if s.withName then s.named name sep else "") ++
    (if s.numbers then wide (·.number) l.number else "") ++
    (if s.byteOffsets then wide (·.offset) l.offset else "")
  if s.tabs && (s.withName || s.numbers || s.byteOffsets) then parts ++ "\t" else parts

/-- A line whose matches are coloured. -/
def coloured (p : Plan) (s : Showing) (pick : Palette → String) (line : String) : String :=
  if s.palette.isNone then line
  else
    let found := p.matches (line.length + 2) (Regex.start line)
    let cs := line.toList
    let (place, parts) := found.foldl (fun (acc : Nat × List String) m =>
      let before := String.ofList ((cs.drop acc.1).take (m.1 - acc.1))
      let shown := s.painted pick (String.ofList ((cs.drop m.1).take (m.2 - m.1)))
      (m.2, shown :: before :: acc.2)) (0, [])
    String.join (String.ofList (cs.drop place) :: parts).reverse

/-- How far the search of a text has come. -/
structure Progress where
  /-- The lines so far, and how long they are together. -/
  count : Nat := 0
  offset : Nat := 0
  selected : Nat := 0
  /-- How many lines are still to be shown behind a selected one. -/
  pending : Nat := 0
  /-- The lines that may have to be shown before one, the last first. -/
  waiting : List Line := []
  /-- The number of the last line that was shown. -/
  last : Option Nat := none
  isRaw : Bool := false

/-- Show a line, with a mark in front of it if lines were left out. -/
def showLine (p : Plan) (s : Showing) (name : String) (width : Nat) (isSelected : Bool) (l : Line)
    (g : Progress) : Chore Progress := do
  let sep := if isSelected then ":" else "-"
  let gap := match g.last with
    | some k => decide (k + 1 < l.number)
    | none => false
  if gap then
    match s.between with
    | some mark => say (s.painted (·.mark) mark ++ "\n")
    | none => pure ()
  if s.only then
    if isSelected && !p.invert then
      let cs := l.text.toList
      for m in p.matches (l.text.length + 2) (Regex.start l.text) do
        let found := String.ofList ((cs.drop m.1).take (m.2 - m.1))
        say (s.head name width sep { l with offset := l.offset + m.1 } ++
          s.painted (·.selected) found ++ s.mark)
  else
    let text := if isSelected == p.invert then l.text
      else coloured p s (if isSelected then (·.selected) else (·.context)) l.text
    say (s.head name width sep l ++ text ++ s.mark)
  pure { g with last := some l.number }

/-- Go on with a line; says whether the search goes on. -/
def takeLine (p : Plan) (s : Showing) (name : String) (width : Nat) (text : String)
    (g : Progress) : Chore (Progress × Bool) := do
  let l : Line := { number := g.count + 1, offset := g.offset, text := text }
  let g := { g with count := g.count + 1, offset := g.offset + text.length + 1 }
  let isFull := s.most.any (· ≤ g.selected)
  if !isFull && p.selects text then do
    let g := { g with selected := g.selected + 1 }
    let isLast := s.most.any (· ≤ g.selected)
    if s.endsEarly then pure (g, false)
    else if s.hidesLines then pure (g, !isLast)
    else if g.isRaw then pure (g, false)
    else do
      let mut g := g
      for w in g.waiting.reverse do g ← showLine p s name width false w g
      g ← showLine p s name width true l g
      pure ({ g with waiting := [], pending := s.after }, !isLast || 0 < s.after)
  else if 0 < g.pending then do
    let g ← showLine p s name width false l g
    pure ({ g with pending := g.pending - 1 }, !isFull || 1 < g.pending)
  else
    pure ({ g with waiting := if s.before = 0 then [] else (l :: g.waiting).take s.before }, !isFull)

/-- Take the pieces of a line that zeros cut; a text with zeros in it is not made of lines. -/
def takePieces (p : Plan) (s : Showing) (name : String) (width : Nat) :
    List String → Progress → Chore (Progress × Bool)
  | [], g => pure (g, true)
  | piece :: rest, g => do
    let (g, more) ← takeLine p s name width piece g
    if more then takePieces p s name width rest g else pure (g, false)

/-- Go through the lines of a source. -/
def searchLines (p : Plan) (s : Showing) (name : String) (width : Nat) (isTold : Bool) :
    Nat → LineSource → Progress → Chore Progress
  | 0, _, g => pure g
  | n + 1, source, g => do
    match ← source.next endless with
    | (none, _) => pure g
    | (some line, source) => do
      let hasZero (t : String) : Bool := !s.zero && isTold && t.contains '\x00'
      let isRaw := g.isRaw || hasZero line ||
        g.count = 0 && (source.ready.any hasZero || source.begun.any hasZero)
      let g := { g with isRaw := isRaw }
      let text := withoutMark source.how.mark line
      if isRaw && s.rawness matches .skipped then pure { g with selected := 0 }
      else
        let (g, more) ←
          if isRaw && text.contains '\x00' then
            takePieces p s name width (text.splitOn "\x00") g
          else takeLine p s name width text g
        if more then searchLines p s name width isTold n source g else pure g

/-- Search an input; says whether a line was selected. -/
def searchInput (p : Plan) (s : Showing) (name : String) (fd : Nat) : Chore Bool := do
  let size ← match ← Asking.ask (.inspectOpen fd) with
    | .info i => pure (if i.kind = .plain then some i.size else none)
    | _ => pure none
  let width := if s.tabs && (s.numbers || s.byteOffsets) then
      match size with
      | some k => (toString (if s.numbers then k + 1 else k)).length
      | none => 19
    else 0
  let how : Intake := {
    mark := if s.zero then '\x00' else '\n', block := 98304
    returns := !s.quiet && !s.unseen && s.most.isSome }
  let source ← LineSource.ofDescriptor how fd
  let isTold := !(s.rawness matches .taken)
  let g ← if s.most == some 0 then pure {} else
    searchLines p s name width isTold endless source {}
  let hit := decide (0 < g.selected)
  let nameEnd := if s.nullNames then "\x00" else "\n"
  if s.quiet then pure ()
  else if s.names then
    if hit then say (s.painted (·.name) name ++ nameEnd)
  else if s.namesWithout then
    if !hit then say (s.painted (·.name) name ++ nameEnd)
  else if s.count then
    say ((if s.withName then s.named name ":" else "") ++ toString g.selected ++ "\n")
  else if g.isRaw && hit then
    warn ("grep: " ++ name ++ ": binary file matches")
  pure hit

/-! ## Which files -/

/-- A pattern for names of files, and whether it takes them in or leaves them out. -/
structure Filter where
  takesIn : Bool
  pattern : Glob.Pattern

/-- Whether a pattern fits a name or, unless the whole is meant, what follows one of its
slashes. -/
def Filter.fits (f : Filter) (whole : Bool) (path : String) : Bool :=
  let rec behind : List Char → List (List Char)
    | '/' :: c :: rest => if c == '/' then behind (c :: rest) else (c :: rest) :: behind rest
    | _ :: rest => behind rest
    | [] => []
  let cs := path.toList
  (cs :: if whole then [] else behind cs).any (Glob.isMatch f.pattern)

/-- Whether a name is left out: the last filter that fits decides, or else the first filter. -/
def isLeftOut (filters : List Filter) (whole : Bool) (path : String) : Bool :=
  match filters.reverse.find? (·.fits whole path) with
  | some f => !f.takesIn
  | none => match filters with
    | [] => false
    | f :: _ => f.takesIn

/-- The files below a directory that are not left out. -/
def filesBelow (follow : Bool) (files directories : List Filter) :
    Nat → String → Chore (List String)
  | 0, _ => pure []
  | n + 1, path => do
    match ← askNames (.list (if path.isEmpty then "." else path)) with
    | .error _ => pure []
    | .ok names => do
      let mut all : List String := []
      for name in sorted names do
        let full := if path.isEmpty then name else joinPath path name
        match ← inspect? full follow with
        | some i =>
          if i.kind == .directory then
            if !isLeftOut directories false full then
              let more ← filesBelow follow files directories n full
              all := all ++ more
          else if i.kind == .plain && !isLeftOut files false full then all := all ++ [full]
        | none => pure ()
      pure all

def letters : String := "0123456789A:B:C:D:EFGHILPTUVX:abcd:e:f:hiLlm:noqRrsuvwxyZz"

def longNames : List (String × Arity) :=
  [("basic-regexp", .none), ("extended-regexp", .none), ("fixed-regexp", .none),
    ("fixed-strings", .none), ("perl-regexp", .none), ("after-context", .required),
    ("before-context", .required), ("binary-files", .required), ("binary", .none),
    ("byte-offset", .none), ("context", .required), ("color", .optional),
    ("colour", .optional), ("count", .none), ("devices", .required), ("directories", .required),
    ("exclude", .required), ("exclude-from", .required), ("exclude-dir", .required),
    ("file", .required), ("files-with-matches", .none), ("files-without-match", .none),
    ("group-separator", .required), ("ignore-case", .none), ("no-ignore-case", .none),
    ("include", .required), ("initial-tab", .none), ("label", .required),
    ("line-buffered", .none), ("line-regexp", .none), ("line-number", .none),
    ("max-count", .required), ("no-filename", .none), ("no-group-separator", .none),
    ("no-messages", .none), ("null", .none), ("null-data", .none), ("only-matching", .none),
    ("quiet", .none), ("recursive", .none), ("dereference-recursive", .none),
    ("regexp", .required), ("invert-match", .none), ("silent", .none), ("text", .none),
    ("unix-byte-offsets", .none), ("with-filename", .none), ("word-regexp", .none)]

/-- Read the patterns; the kind is that of the option that was given last. -/
def readPatterns (chosen : List Choice) (texts : List String) : Option (List Regex) :=
  let kinds := chosen.filter fun c =>
    ["E", "F", "G", "P", "extended-regexp", "fixed-strings", "fixed-regexp", "basic-regexp",
      "perl-regexp"].contains c.name
  let kind := (kinds.getLast?.map (·.name)).getD "G"
  let isFixed := ["F", "fixed-strings", "fixed-regexp"].contains kind
  let isExtended := ["E", "extended-regexp"].contains kind
  texts.mapM fun t =>
    if isFixed then some (literal t)
    else if kind == "P" || kind == "perl-regexp" then (Regex.Lookaround.read t).toOption
    else
      match Regex.read isExtended t false true with
      | .ok (r, _) => some r
      | .error _ => none

/-- The colours that a variable of the environment sets. -/
def paletteOf (environment : List String) : Palette :=
  let value (n : String) : Option String :=
    environment.findSome? fun e => match splitAtChar? '=' e with
      | some (k, v) => if k == n then some v else none
      | none => none
  let start : Palette := match value "GREP_COLOR" with
    | some c => if c.isEmpty then {} else { selected := c, context := c }
    | none => {}
  ((value "GREP_COLORS").getD "").splitOn ":" |>.foldl (fun p part =>
    match splitAtChar? '=' part with
    | some ("mt", v) => { p with selected := v, context := v }
    | some ("ms", v) => { p with selected := v }
    | some ("mc", v) => { p with context := v }
    | some ("fn", v) => { p with name := v }
    | some ("ln", v) => { p with number := v }
    | some ("bn", v) => { p with offset := v }
    | some ("se", v) => { p with mark := v }
    | _ => if part == "ne" then { p with clears := false } else p) start

/-- The filters for files and for directories. -/
def readFilters (chosen : List Choice) : Chore (List Filter × List Filter × Bool) := do
  let mut files : List Filter := []
  let mut directories : List Filter := []
  let mut sound := true
  for c in chosen do
    let v := c.value.getD ""
    match c.name with
    | "include" => files := files ++ [⟨true, Glob.ofText v⟩]
    | "exclude" => files := files ++ [⟨false, Glob.ofText v⟩]
    | "exclude-dir" =>
      let bare := String.ofList (v.toList.reverse.dropWhile (· == '/')).reverse
      directories := directories ++ [⟨false, Glob.ofText bare⟩]
    | "exclude-from" =>
      match ← openFile v .reading with
      | .ok d =>
        let text ← readAll d
        close d
        files := files ++ ((lines text).filter (!·.isEmpty)).map fun l => ⟨false, Glob.ofText l⟩
      | .error why => do
        warn ("grep: " ++ v ++ ": " ++ why.text)
        sound := false
    | _ => pure ()
  pure (files, directories, sound)

/-- What of the selected lines the options want to see. -/
def showingOf (chosen : List Choice) (environment : List String) (manyNames : Bool) : Showing :=
  let number (ns : List String) : Option Nat := (valueOf? chosen ns).bind (·.toNat?)
  let digitsGiven := String.join ((chosen.filter fun c => isDigits c.name).map (·.name))
  let context := (number ["C", "context"]).or digitsGiven.toNat?
  let before := (number ["B", "before-context"]).or context
  let after := (number ["A", "after-context"]).or context
  let last (ns : List String) : Option String :=
    ((chosen.filter fun c => ns.contains c.name).getLast?).map (·.name)
  let lists := last ["l", "files-with-matches", "L", "files-without-match"]
  let named := last ["H", "with-filename", "h", "no-filename"]
  let rawness := (chosen.filterMap fun c => match c.name with
    | "a" | "text" => some Rawness.taken
    | "I" => some .skipped
    | "binary-files" => some (match c.value with
      | some "text" => .taken
      | some "without-match" => .skipped
      | _ => .told)
    | _ => none).getLast?
  let groupMark := ((chosen.filter fun c =>
    ["group-separator", "no-group-separator"].contains c.name).getLast?).map (·.value)
  { quiet := has chosen ["q", "quiet", "silent"]
    count := has chosen ["c", "count"] && lists.isNone
    names := lists.any fun n => n == "l" || n == "files-with-matches"
    namesWithout := lists.any fun n => n == "L" || n == "files-without-match"
    only := has chosen ["o", "only-matching"]
    numbers := has chosen ["n", "line-number"]
    byteOffsets := has chosen ["b", "byte-offset"]
    withName := match named with
      | some n => n == "H" || n == "with-filename"
      | none => manyNames
    most := match valueOf? chosen ["m", "max-count"] with
      | some v => v.toNat?
      | none => none
    before := if has chosen ["o", "only-matching"] then 0 else before.getD 0
    after := if has chosen ["o", "only-matching"] then 0 else after.getD 0
    between := if before.isSome || after.isSome then groupMark.getD (some "--") else none
    zero := has chosen ["z", "null-data"]
    nullNames := has chosen ["Z", "null"]
    tabs := has chosen ["T", "initial-tab"]
    rawness := rawness.getD .told
    palette := if (valueOf? chosen ["color", "colour"]).any fun v =>
        ["always", "yes", "force"].contains v then some (paletteOf environment) else none
    label := (valueOf? chosen ["label"]).getD "(standard input)" }

def run (chosen : List Choice) (environment texts names : List String) : Chore Nat := do
  match readPatterns chosen texts with
  | none => do
    warn "grep: invalid pattern"
    pure 2
  | some patterns => do
    let kind := (chosen.filter fun c => ["P", "perl-regexp"].contains c.name).isEmpty
    let p : Plan := {
      patterns := patterns
      ignoreCase := has chosen ["i", "y", "ignore-case"] && !has chosen ["no-ignore-case"]
      wholeLine := has chosen ["x", "line-regexp"]
      wholeWord := has chosen ["w", "word-regexp"]
      invert := has chosen ["v", "invert-match"]
      preferred := !kind }
    let recursive := has chosen ["r", "R", "recursive", "dereference-recursive"] ||
      valueOf? chosen ["d", "directories"] == some "recurse"
    let skip := valueOf? chosen ["d", "directories"] == some "skip"
    let wholeTree := recursive && names.isEmpty
    let names := if names.isEmpty && !recursive then ["-"] else names
    let s := showingOf chosen environment (recursive || 1 < names.length)
    let silent := has chosen ["s", "no-messages"]
    let tell (why : String) : Chore Unit := if silent then pure () else warn ("grep: " ++ why)
    let (files, directories, sound) ← readFilters chosen
    if !sound then return 2
    let (output?, unseen) ← match ← Asking.ask (.inspectOpen 1) with
      | .info i => pure (if i.kind = .plain then some i.node else none, i.device == (1, 3))
      | _ => pure (none, false)
    let s := { s with unseen := unseen }
    let follow := has chosen ["R", "dereference-recursive"]
    let mut found := false
    let mut fault := false
    let mut targets : List String := []
    if wholeTree then targets ← filesBelow follow files directories 100 ""
    for name in names do
      match ← (if name == "-" then pure none else inspect? name true) with
      | some i =>
        if i.kind == .directory then
          if recursive then
            if !isLeftOut directories true name then
              let more ← filesBelow follow files directories 100 name
              targets := targets ++ more
          else if skip then pure ()
          else targets := targets ++ [name]
        else if !isLeftOut files true name then targets := targets ++ [name]
      | none => if name == "-" || !isLeftOut files true name then targets := targets ++ [name]
    for target in targets do
      let opened ← if target == "-" then pure (.ok 0) else openFile target .reading
      match opened with
      | .error why => do
        tell (target ++ ": " ++ why.text)
        fault := true
      | .ok d => do
        let i? ← match ← Asking.ask (.inspectOpen d) with
          | .info i => pure (some i)
          | _ => pure none
        let isOutput := (i?.map (·.node)).any fun node => output? == some node
        if i?.any fun i => i.kind = .directory then do
          tell (target ++ ": Is a directory")
          fault := true
        else if isOutput && !s.hidesLines && s.most.all (1 < ·) then do
          tell (target ++ ": input file is also the output")
          fault := true
        else do
          let hit ← searchInput p s (if target == "-" then s.label else target) d
          if hit then found := true
        if target != "-" then close d
      if found && s.quiet then return 0
    finishWith 2 (if fault then 2 else if found then 0 else 1)

end Search

/-- The kinds of patterns that are asked for. -/
def Search.kinds (chosen : List Choice) : List String :=
  let table := [("E", "E"), ("extended-regexp", "E"), ("F", "F"), ("fixed-strings", "F"),
    ("fixed-regexp", "F"), ("G", "G"), ("basic-regexp", "G"), ("P", "P"), ("perl-regexp", "P")]
  chosen.filterMap fun c => table.lookup c.name

def Search.checks : List Check :=
  [⟨["binary-files"], 2, fun v => ["binary", "text", "without-match"].contains v⟩,
    ⟨["D", "devices"], 2, fun v => ["read", "skip"].contains v⟩,
    .words ["d", "directories"] ["read", "recurse", "skip"]]

/-- Search with the options that the name of the program implies. -/
def grep (implied : List Choice) (args environment : List String) : Chore Nat :=
  withOptions
    { letters := Search.letters, long := Search.longNames, checks := Search.checks } 2 args
    fun chosen operands => do
    let chosen := implied ++ chosen
    if 1 < (dropRepeats (· == ·) (Search.kinds chosen)).length then do
      warn "grep: conflicting matchers specified"
      return 2
    if has chosen ["V"] then do
      introduce true
      finish 0
    else do
      let badCount := ["A", "B", "C", "after-context", "before-context", "context"].any fun n =>
        (valueOf? chosen [n]).any fun v => v.toNat?.isNone
      let badMost := (valueOf? chosen ["m", "max-count"]).any fun v => v.toInt?.isNone
      if badCount || badMost then do
        warn "grep: invalid context length argument"
        pure 2
      else do
        let mut texts : List String := []
        let mut fault := false
        for c in chosen do
          if c.name == "e" || c.name == "regexp" then
            texts := texts ++ (c.value.getD "").splitOn "\n"
          else if c.name == "f" || c.name == "file" then
            let path := c.value.getD ""
            if path == "-" then
              let text ← readAll 0
              texts := texts ++ lines text
            else
              match ← openFile path .reading with
              | .ok d => do
                let text ← readAll d
                close d
                texts := texts ++ lines text
              | .error why => do
                warn ("grep: " ++ path ++ ": " ++ why.text)
                fault := true
        if fault then pure 2
        else if has chosen ["e", "f", "regexp", "file"] then
          Search.run chosen environment texts operands
        else
          match operands with
          | [] => do
            warn "Usage: grep [OPTION]... PATTERNS [FILE]..."
            pure 2
          | pattern :: names => Search.run chosen environment (pattern.splitOn "\n") names

end StreamSupervisor.Tool
