import StreamSupervisor.Shell.Builtin.Variables

/-! # Builtins for names

What the names of commands mean: builtins that tell it, builtins that keep where programs
are, and aliases.
-/

namespace StreamSupervisor.Shell

open Machine

/-- How a name is known. -/
inductive Meaning where
  | keyword
  | alias (text : String)
  | function (f : Function)
  | builtin
  /-- A program, and whether its path was remembered. -/
  | program (path : String) (isRemembered : Bool)

/-- The word for the kind of thing that a name means. -/
def Meaning.word : Meaning → String
  | .keyword => "keyword"
  | .alias _ => "alias"
  | .function _ => "function"
  | .builtin => "builtin"
  | .program .. => "file"

/-- The files along the search path that a name stands for and that may be executed. -/
def programsNamed (name : String) (standard : Bool) : Work (List String) := do
  let s ← get
  if name.isEmpty then pure []
  else if name.contains '/' then
    match ← inspect? name true with
    | some i => do
      let ok ← mayAccess name 1
      pure (if ok && i.kind != .directory then [name] else [])
    | none => pure []
  else do
    let mut found := []
    for d in searchPath s standard do
      let path := if d.isEmpty then "./" ++ name else d ++ "/" ++ name
      match ← inspect? path true with
      | some i =>
        if i.kind = .plain then
          if ← mayAccess path 1 then found := found ++ [path]
      | none => pure ()
    pure found

/-- The program that a name stands for in the plain shell, or was remembered for. -/
def programNamed? (name : String) (standard : Bool) : Work (Option Meaning) := do
  let s ← get
  match (if standard then none else s.remembered.lookup name) with
  | some (path, _) => pure (some (.program path s.isRich))
  | none =>
    if s.isRich then
      pure ((← programsNamed name standard).head?.map fun path => .program path false)
    else
      match ← findProgram name standard with
      | .path path => do
        let there ← inspect? path true
        pure (there.map fun _ => .program path false)
      | _ => pure none

/-- What a name means to the shell itself. -/
def ownMeanings (s : State) (name : String) : List Meaning :=
  let alias_ := if s.isRich then s.activeAliases else s.grammar.aliases
  let keyword : List Meaning := if isKeyword s.isRich name then [.keyword] else []
  let aliased : List Meaning := ((alias_.lookup name).map Meaning.alias).toList
  (if s.isRich then aliased ++ keyword else keyword ++ aliased) ++
    ((s.functions.lookup name).map Meaning.function).toList ++
    (if s.hasBuiltin name then [.builtin] else [])

def meaning? (name : String) (standard : Bool) : Work (Option Meaning) := do
  let s ← get
  match ownMeanings s name with
  | m :: _ => pure (some m)
  | [] => programNamed? name standard

/-- What a name means, in a word that can be called or in a sentence. -/
def shownMeaning (s : State) (name : String) (verbose : Bool) : Meaning → String
  | .keyword => if verbose then name ++ " is a shell keyword\n" else name ++ "\n"
  | .alias text =>
    if !verbose then
      "alias " ++ name ++ "=" ++
        (if s.isRich then Quoting.single text else Quoting.singleDoubled text) ++ "\n"
    else if s.isRich then name ++ " is aliased to \x60" ++ text ++ "\x27\n"
    else name ++ " is an alias for " ++ text ++ "\n"
  | .function f =>
    if !verbose then name ++ "\n"
    else if s.isRich then name ++ " is a function\n" ++ functionText s name f
    else name ++ " is a shell function\n"
  | .builtin =>
    if !verbose then name ++ "\n"
    else if !s.isRich && isSpecialBuiltin name && name != "local" then
      name ++ " is a special shell builtin\n"
    else name ++ " is a shell builtin\n"
  | .program path isRemembered =>
    if !verbose then path ++ "\n"
    else if isRemembered then name ++ " is hashed (" ++ path ++ ")\n"
    else name ++ " is " ++ path ++ "\n"

/-- Describe a name; the status tells whether it means anything. -/
def describe (builtin name : String) (verbose standard : Bool) : Work Nat := do
  let s ← get
  match ← meaning? name standard with
  | some m => sayOut (shownMeaning s name verbose m)
  | none => do
    if verbose then
      if s.isRich then complain (builtin ++ ": " ++ name ++ ": not found")
      else
        let _ ← sayOut (name ++ ": not found\n")
    pure (if s.isRich then 1 else 127)

/-- What the command before a name is asked to tell about it. -/
def commandDescription (args : List String) : Work Nat := do
  let s ← get
  let (chosen, names) ← builtinOptions "pvV" args
  let standard := Tool.has chosen ["p"]
  match names with
  | [] => pure 0
  | name :: rest =>
    if chosen.isEmpty then pure 0
    else
      let verbose := Tool.has chosen ["V"]
      if s.isRich then do
        let mut some_ := false
        for n in name :: rest do
          let c ← describe "command" n verbose standard
          if c == 0 then some_ := true
        pure (if some_ then 0 else 1)
      else describe "command" name verbose standard

/-- Tell what names mean in the rich shell, in the manner that some options choose. -/
def typeOfNames (chosen : List Tool.Choice) (names : List String) : Work Nat := do
  let s ← get
  let all := Tool.has chosen ["a"]
  let pathsOnly := Tool.has chosen ["p", "P"]
  let wordsOnly := Tool.has chosen ["t"]
  let mut code := 0
  for name in names do
    let own := if Tool.has chosen ["P"] then [] else
      (ownMeanings s name).filter fun m =>
        match m with
        | .function _ => !Tool.has chosen ["f"]
        | _ => true
    let found ← if all then do
        let programs ← programsNamed name false
        pure (own ++ programs.map fun path => Meaning.program path false)
      else if own.isEmpty then
        pure (← programNamed? name false).toList
      else pure (own.take 1)
    for m in found do
      if wordsOnly then
        let _ ← sayOut (m.word ++ "\n")
      else if pathsOnly then
        match m with
        | .program path _ =>
          let _ ← sayOut (path ++ "\n")
        | _ => pure ()
      else
        let _ ← sayOut (shownMeaning s name true m)
    if found.isEmpty then do
      if !wordsOnly && !pathsOnly then complain ("type: " ++ name ++ ": not found")
      code := 1
  pure code

def typeOf (args : List String) : Work Nat := do
  let s ← get
  if s.isRich then do
    let (chosen, names) ← builtinOptions "aftpP" args
    typeOfNames chosen names
  else do
    let mut code := 0
    for name in args do
      let c ← describe "type" name true false
      if c != 0 then code := c
    pure code

/-! ## Where programs are -/

/-- Remember where a program is, once it has been looked for again. -/
def rememberAgain (name : String) : Work Nat := do
  let s ← get
  if name.contains '/' || s.isRich && (s.hasBuiltin name || s.functions.any (·.1 == name)) then
    pure 0
  else do
    set { s with remembered := s.remembered.filter (·.1 != name) }
    let missing : Work Nat := do
      complain (if s.isRich then "hash: " ++ name ++ ": not found" else name ++ ": not found")
      pure 1
    if s.isRich then
      match ← programsNamed name false with
      | path :: _ => do
        modify fun t => { t with remembered := (name, path, 0) :: t.remembered }
        pure 0
      | [] => missing
    else
      match ← findProgram name false with
      | .path path => do
        modify fun t => { t with remembered := (name, path, 0) :: t.remembered }
        pure 0
      | _ => if s.hasBuiltin name || s.functions.any (·.1 == name) then pure 0 else missing

/-- Show or change where programs are said to be. -/
def hash (args : List String) : Work Nat := do
  let s ← get
  let (chosen, names) ← builtinOptions (if s.isRich then "dlp:rt" else "rv") args
  if Tool.has chosen ["r"] then modify fun s => { s with remembered := [] }
  let known := s.remembered.reverse
  match Tool.valueOf? chosen ["p"] with
  | some path => do
    if s.has 'r' && path.contains '/' then do
      complain "hash: restricted"
      return 1
    let there ← inspect? path true
    if there.any (·.kind == .directory) then do
      complain ("hash: " ++ path ++ ": Is a directory")
      return 1
    modify fun s => { s with
      remembered := names.map (fun n => (n, path, 0)) ++
        s.remembered.filter fun e => !names.contains e.1 }
    pure 0
  | none =>
  if Tool.has chosen ["d", "t"] then do
    let mut code := 0
    for name in names do
      match s.remembered.lookup name with
      | some (path, _) =>
        if Tool.has chosen ["t"] then
          let _ ← sayOut ((if 1 < names.length then name ++ "\t" else "") ++ path ++ "\n")
      | none => do
        complain ("hash: " ++ name ++ ": not found")
        code := 1
    if Tool.has chosen ["d"] then
      modify fun s => { s with remembered := s.remembered.filter fun e => !names.contains e.1 }
    pure code
  else if names.isEmpty && !Tool.has chosen ["r"] then
    if !s.isRich then sayOut (String.join (known.map fun e => e.2.1 ++ "\n"))
    else if known.isEmpty then
      if Tool.has chosen ["l"] then pure 0 else sayOut "hash: hash table empty\n"
    else if Tool.has chosen ["l"] then
      sayOut (String.join (known.map fun e =>
        "builtin hash -p " ++ e.2.1 ++ " " ++ e.1 ++ "\n"))
    else
      let count (n : Nat) : String :=
        let ds := toString n
        String.ofList (List.replicate (4 - ds.length) ' ') ++ ds
      sayOut ("hits\tcommand\n" ++ String.join (known.map fun e =>
        count e.2.2 ++ "\t" ++ e.2.1 ++ "\n"))
  else do
    let mut code := 0
    for name in names do
      let c ← rememberAgain name
      if c != 0 then code := c
    pure code

/-! ## Aliases -/

/-- An alias as it is shown. -/
def shownAlias (s : State) (a : String × String) : String :=
  if s.isRich then "alias " ++ a.1 ++ "=" ++ Quoting.single a.2 ++ "\n"
  else a.1 ++ "=" ++ Quoting.singleDoubled a.2 ++ "\n"

def alias_ (args : List String) : Work Nat := do
  let s ← get
  let (chosen, args) ← if s.isRich then builtinOptions "p" args else pure ([], args)
  let mut code := 0
  if args.isEmpty || Tool.has chosen ["p"] then
    let sorted := s.grammar.aliases.mergeSort fun a b => !bytesBefore b.1 a.1
    let _ ← sayOut (String.join (sorted.map (shownAlias s)))
  for a in args do
    let s ← get
    match (if a.startsWith "=" then none else splitAtChar? '=' a) with
    | some (name, text) =>
      let others := s.grammar.aliases.filter (·.1 != name)
      set { s with grammar := { s.grammar with aliases := (name, text) :: others } }
    | none =>
      match s.grammar.aliases.lookup a with
      | some text =>
        let _ ← sayOut (shownAlias s (a, text))
      | none => do
        if s.isRich then complain ("alias: " ++ a ++ ": not found")
        else
          let _ ← write 2 ("alias: " ++ a ++ " not found\n")
        code := 1
  pure code

def unalias (args : List String) : Work Nat := do
  let (chosen, names) ← builtinOptions "a" args
  let s ← get
  if Tool.has chosen ["a"] then do
    set { s with grammar := { s.grammar with aliases := [] } }
    pure 0
  else if names.isEmpty && s.isRich then pure 2
  else do
    let mut code := 0
    for name in names do
      let s ← get
      if s.grammar.aliases.any (·.1 == name) then
        set { s with
          grammar := { s.grammar with aliases := s.grammar.aliases.filter (·.1 != name) } }
      else do
        if s.isRich then complain ("unalias: " ++ name ++ ": not found")
        else
          let _ ← write 2 ("unalias: " ++ name ++ " not found\n")
        code := 1
    pure code

/-! ## Which builtins there are -/

/-- Show builtins, or have some passed over or not. -/
def enable (args : List String) : Work Nat := do
  let s ← get
  let (chosen, names) ← builtinOptions "adnpsf:" args
  if s.has 'r' && Tool.has chosen ["f", "d"] then return 1
  if Tool.has chosen ["f", "d"] then do
    complain "enable: cannot load"
    return 1
  let isShown (b : String) : Bool := !Tool.has chosen ["s"] || isSpecialBuiltin b
  if names.isEmpty || Tool.has chosen ["p"] then
    let shown := richBuiltins.filter fun b => isShown b &&
      (Tool.has chosen ["a"] || s.disabled.contains b == Tool.has chosen ["n"])
    sayOut (String.join (shown.map fun b =>
      (if s.disabled.contains b then "enable -n " else "enable ") ++ b ++ "\n"))
  else do
    let mut code := 0
    for name in names do
      if !isBuiltin true name then do
        complain ("enable: " ++ name ++ ": not a shell builtin")
        code := 1
      else modify fun t => { t with
        disabled := (if Tool.has chosen ["n"] then [name] else []) ++
          t.disabled.filter (· != name) }
    pure code

/-! ## Completions -/

/-- The words that the shell keeps for itself, in the order in which it offers them. -/
def offeredKeywords : List String :=
  ["if", "then", "else", "elif", "fi", "case", "esac", "for", "select", "while", "until", "do",
    "done", "in", "function", "time", "\x7b", "\x7d", "!", "[[", "]]", "coproc"]

/-- The files whose paths begin with a text. -/
def offeredFiles (front : String) (onlyDirectories : Bool) : Work (List String) := do
  let cs := front.toList.reverse
  let base := String.ofList (cs.dropWhile (· != '/')).reverse
  let start := String.ofList (cs.takeWhile (· != '/')).reverse
  match ← askNames (.list (if base.isEmpty then "." else base)) with
  | .error _ => pure []
  | .ok names => do
    let mut found := []
    for name in sortTexts names do
      if name.startsWith start && (!start.isEmpty || !name.startsWith ".") then
        let keep ← if onlyDirectories then
            match ← inspect? (base ++ name) true with
            | some i => pure (i.kind == .directory)
            | none => pure false
          else pure true
        if keep then found := found ++ [base ++ name]
    pure found

/-- What a single letter stands for among the things that can be offered. -/
def offerOfLetter (letter : String) : String :=
  match letter with
  | "a" => "alias"
  | "b" => "builtin"
  | "c" => "command"
  | "d" => "directory"
  | "e" => "export"
  | "f" => "file"
  | "g" => "group"
  | "j" => "job"
  | "k" => "keyword"
  | "s" => "service"
  | "u" => "user"
  | "v" => "variable"
  | _ => ""

/-- The things of a kind that begin with a text. -/
def offered (kind front : String) : Work (List String) := do
  let s ← get
  let names (chosen : Variable → Bool) : List String :=
    sortTexts ((s.bindings.filter fun v => chosen v.2).map (·.1))
  let functions := sortTexts (s.functions.map (·.1))
  let aliases := s.grammar.aliases.map (·.1)
  let mine (all : List String) : List String := all.filter (·.startsWith front)
  match kind with
  | "alias" => pure (mine aliases)
  | "arrayvar" => pure (mine (names (·.elements.isSome)))
  | "builtin" | "helptopic" => pure (mine richBuiltins)
  | "enabled" => pure (mine (richBuiltins.filter fun b => !s.disabled.contains b))
  | "disabled" => pure (mine s.disabled)
  | "export" => pure (mine (names (·.exported)))
  | "function" => pure (mine functions)
  | "keyword" => pure (mine offeredKeywords)
  | "setopt" => pure (mine (richOptionNames.map (·.1)))
  | "shopt" => pure (mine habits)
  | "signal" => pure (mine (signalNames.map ("SIG" ++ ·)))
  | "variable" => pure (mine (names fun _ => true))
  | "user" => pure (mine ["root"])
  | "directory" => offeredFiles front true
  | "file" => offeredFiles front false
  | "command" => do
    let mut programs := []
    for d in searchPath s false do
      match ← askNames (.list d) with
      | .ok names => programs := programs ++ mine (sortTexts names)
      | .error _ => pure ()
    pure (mine aliases ++ mine offeredKeywords ++ mine functions ++ mine richBuiltins ++ programs)
  | _ => pure []

/-- Tell what a word can be completed to; the status says whether there is anything. -/
def completions (args : List String) : Work Nat := do
  let (chosen, words) ← builtinOptions "abcdefgjksuvo:A:G:W:F:C:X:P:S:" args
  let s ← get
  let front := words.headD ""
  let kinds := chosen.filterMap fun c =>
    if c.name == "A" then c.value
    else
      let kind := offerOfLetter c.name
      if kind.isEmpty then none else some kind
  let mut found := []
  for kind in kinds do
    let here ← offered kind front
    found := found ++ here
  let isSeparator (c : Char) : Bool := s.separators.toList.contains c
  let given := (((Tool.valueOf? chosen ["W"]).getD "").split isSeparator).toStringList
  let listed := given.filter fun w => !w.isEmpty && w.startsWith front
  let barred := (Tool.valueOf? chosen ["X"]).map fun x =>
    let negated := x.startsWith "!"
    let p := Glob.read s.patternStyle
      ((if negated then dropChars 1 x else x).toList.map fun c => (c, false))
    fun (w : String) => Glob.isMatch p w.toList != negated
  let all := (found ++ listed).filter fun w =>
    match barred with
    | some test => !test w
    | none => true
  let before := (Tool.valueOf? chosen ["P"]).getD ""
  let behind := (Tool.valueOf? chosen ["S"]).getD ""
  let _ ← sayOut (String.join (all.map fun w => before ++ w ++ behind ++ "\n"))
  pure (if chosen.isEmpty || !all.isEmpty then 0 else 1)

end StreamSupervisor.Shell
