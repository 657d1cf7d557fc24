import StreamSupervisor.Text.Regex

/-! # Scripts for records

What a script that goes through records is made of: rules with a pattern and an action each,
functions, statements and expressions.
-/

namespace StreamSupervisor.Tool.Records

/-- Where a line is fetched from instead of the inputs. -/
inductive Source where
  | inputs
  | file
  | program

mutual

inductive Expr where
  | number (f : Float)
  | text (s : String)
  | pattern (r : Regex)
  | name (n : String)
  | element (array : String) (subscripts : List Expr)
  | field (e : Expr)
  | grouped (e : Expr)
  | assign (op : String) (target value : Expr)
  | choice (c a b : Expr)
  | or (a b : Expr)
  | and (a b : Expr)
  | isIn (subscripts : List Expr) (array : String)
  | isMatch (negated : Bool) (a b : Expr)
  | compare (op : String) (a b : Expr)
  | concat (a b : Expr)
  | arith (op : Char) (a b : Expr)
  | not (e : Expr)
  | negative (e : Expr)
  | positive (e : Expr)
  /-- Count a variable up or down; the value is the new one or the old one. -/
  | count (up before : Bool) (target : Expr)
  | call (function : String) (arguments : List Expr)
  | builtin (function : String) (arguments : List Expr)
  | fetch (source : Source) (target from_ : Option Expr)

end

instance : Inhabited Expr := ⟨.text ""⟩

/-- Where something is written. -/
inductive Target where
  | output
  | file (e : Expr) (append : Bool)
  | program (e : Expr)

inductive Stmt where
  | expr (e : Expr)
  | print (arguments : List Expr) (target : Target)
  | printFormat (arguments : List Expr) (target : Target)
  | choose (c : Expr) (a : Stmt) (b : Option Stmt)
  | while (c : Expr) (body : Stmt)
  | doWhile (body : Stmt) (c : Expr)
  | loop (start : Option Stmt) (c : Option Expr) (step : Option Stmt) (body : Stmt)
  | forEach (counter array : String) (body : Stmt)
  | block (statements : List Stmt)
  | next
  | nextFile
  | exit (e : Option Expr)
  | return (e : Option Expr)
  | break
  | continue
  | delete (array : String) (subscripts : Option (List Expr))

inductive Rule where
  | first (action : Stmt)
  | last (action : Stmt)
  | each (pattern : Option Expr) (action : Option Stmt)
  /-- From a record on up to another one. -/
  | range (start stop : Expr) (action : Option Stmt)

structure Function where
  name : String
  parameters : List String
  body : Stmt

structure Script where
  rules : List Rule := []
  functions : List Function := []

end StreamSupervisor.Tool.Records
