import StreamSupervisor.Shell.State
import StreamSupervisor.Text.Quoting

/-! # Declarations

Variables as they are shown, so that a shell that reads them finds the same values again.
-/

namespace StreamSupervisor.Shell

open Machine

/-- The letters of a variable's attributes. -/
def attributes (v : Variable) : String :=
  (if v.elements.isSome then (if v.isKeyed then "A" else "a") else "") ++
    (if v.isInteger then "i" else "") ++ (if v.isReference then "n" else "") ++
    (if v.readOnly then "r" else "") ++ (if v.exported then "x" else "") ++
    (match v.casing with
      | some .upper => "u"
      | some .lower => "l"
      | some .capital => "c"
      | none => "")

/-- The key of an element as it is shown. -/
def shownKey (keyed : Bool) (key : String) : String :=
  if keyed && (Quoting.hasSigns key || key == "@") then Quoting.double key else key

/-- The elements of a list as they are shown. -/
def shownElements (keyed : Bool) (es : List (String × String)) : String :=
  let items := es.map fun e => "[" ++ shownKey keyed e.1 ++ "]=" ++ Quoting.double e.2
  "(" ++ " ".intercalate items ++ (if keyed && !es.isEmpty then " )" else ")")

/-- The command that declares a variable with its value. -/
def declarationOf (name : String) (v : Variable) : String :=
  let letters := attributes v
  "declare -" ++ (if letters.isEmpty then "-" else letters) ++ " " ++ name ++
    (match v.elements, v.value with
      | some [], _ => if v.isBare then "" else "=()"
      | some es, _ => "=" ++ shownElements v.isKeyed es
      | none, some x => "=" ++ Quoting.double x
      | none, none => "")

end StreamSupervisor.Shell
