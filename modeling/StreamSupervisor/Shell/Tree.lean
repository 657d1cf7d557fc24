/-! # Commands

The commands of a shell as trees, and the words in them as parts that are still to be
expanded.
-/

namespace StreamSupervisor.Shell

/-- What is done if a parameter is unset, or null where the flag says so. -/
inductive Fallback where
  | replace
  | assign
  | complain
  /-- Replaces a parameter that is set. -/
  | alternative
deriving DecidableEq, Repr

inductive CaseChange where
  | raise
  | lower
  | swap
deriving DecidableEq, Repr

inductive RedirectionKind where
  | input
  | output
  /-- Like an output, even if existing files shall be kept. -/
  | overwrite
  | append
  | both
  /-- Like another descriptor, for reading or for writing. -/
  | likeInput
  | likeOutput
  /-- The lines that follow, or a single word as a line. -/
  | lines
  | line
  /-- The standard output and the standard error at once. -/
  | everything (append : Bool)
deriving DecidableEq, Repr

/-- Which descriptor a redirection is about. -/
inductive Handle where
  /-- The one that the kind of the redirection implies. -/
  | usual
  | number (n : Nat)
  /-- A free one, whose number a variable keeps. -/
  | kept (name : String)
deriving DecidableEq, Repr

/-- Where a command stands in its text, and how it is written there. -/
structure Origin where
  line : Nat := 0
  text : String := ""

/-- How a branch of a choice goes on to the next one. -/
inductive BranchEnd where
  | stop
  | fallThrough
  | testNext
deriving DecidableEq, Repr

mutual

inductive Part where
  | plain (text : String)
  /-- Quoted text, which stands for itself. -/
  | fixed (text : String)
  | quoted (parts : List Part)
  | parameter (name : String) (index : Option (List Part)) (use : Use)
  /-- The output of a command. -/
  | output (command : Option Command)
  | arithmetic (parts : List Part)
  /-- A path to the output or to the input of a command. -/
  | channel (reading : Bool) (command : Option Command)
  /-- The elements of a list, and how they are written. -/
  | elements (words : List (List Part)) (text : String)
  /-- What stands between brackets in front of a value. -/
  | subscript (index : List Part)

inductive Use where
  | value
  | length
  | fallback (nullToo : Bool) (kind : Fallback) (word : List Part)
  | trim (front longest : Bool) (word : List Part)
  | substitute (mark : Option Char) (pattern replacement : List Part)
  | slice (start : List Part) (length : Option (List Part))
  /-- Letters that match a pattern become capitals or small ones, or change from one to the
  other. -/
  | changeCase (change : CaseChange) (all : Bool) (pattern : List Part)
  /-- What is done with the parameter that the value names. -/
  | indirect (use : Use)
  /-- The numbers of the elements. -/
  | indices
  /-- The names that begin like the parameter. -/
  | names
  /-- The value in the form that a letter tells. -/
  | transform (letter : Char)
  | bad

/-- A redirection, and how it is written. -/
inductive Redirection where
  | mk (handle : Handle) (kind : RedirectionKind) (word : List Part) (text : String)

/-- A condition, whose tests keep how they are written. -/
inductive Condition where
  | word (w : List Part) (text : String)
  | unary (op : String) (w : List Part) (text : String)
  | binary (a : List Part) (op : String) (b : List Part) (text : String)
  | not (c : Condition)
  | and (a b : Condition)
  | or (a b : Condition)

/-- The patterns of a choice as they are and as they are written, with what is done then. -/
inductive Branch where
  | mk (patterns : List (List Part)) (text : String) (body : Option Command)
      (ends : BranchEnd)

/-- A command. What is not made of commands keeps how it is written, and so do the first
lines of loops and choices. -/
inductive Command where
  | simple (assignments words : List (List Part)) (redirections : List Redirection)
      (origin : Origin)
  | pipeline (commands : List Command) (background : Bool)
  | not (c : Command)
  | both (a b : Command)
  | either (a b : Command)
  | sequence (a b : Command)
  | background (c : Command)
  | group (c : Command)
  | subshell (c : Command) (redirections : List Redirection)
  | redirected (c : Command) (redirections : List Redirection)
  | choice (test yes : Command) (no : Option Command)
  | loop (until_ : Bool) (test body : Command)
  | each (name : String) (words : Option (List (List Part))) (body : Command) (head : String)
  | select (word : List Part) (branches : List Branch) (head : String)
  | define (name : String) (body : Command)
  /-- Arithmetic as a command. -/
  | calculate (expression : List Part) (text : String)
  | count (start test step : List Part) (body : Command) (head : String)
  /-- A loop for which somebody picks the values from a menu. -/
  | menu (name : String) (words : Option (List (List Part))) (body : Command) (head : String)
  /-- A command beside the shell, which the shell can talk to. -/
  | beside (name : String) (c : Command)
  | condition (c : Condition)
  /-- A command whose time is told, perhaps in a plain form. -/
  | timed (isPlain : Bool) (c : Command)

end

abbrev Word := List Part

instance : Inhabited Command := ⟨.simple [] [] [] {}⟩

end StreamSupervisor.Shell
