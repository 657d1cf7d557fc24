import StreamSupervisor.Machine.World

/-! # Execution

How a path and its arguments become a running program. Files of instructions are loaded; a
text has to name its interpreter in its first line, and is then handed to that one.
-/

namespace StreamSupervisor.Machine

/-- What each program does with its arguments and environment. -/
abbrev Programs := String → List String → List String → Activity

/-- How many bytes one argument may take, and all of them together. -/
def argumentLimit : Nat := 131071
def argumentsLimit : Nat := 2097152

/-- Whether an argument list takes more than it may. -/
def isTooLong (arguments : List String) : Bool :=
  (arguments.any fun a => argumentLimit < a.length) ||
    argumentsLimit < arguments.foldl (fun n a => n + a.length + 9) 0

/-- How much of a text is looked at for the name of an interpreter. -/
def headSize : Nat := 256

def isGap (c : Char) : Bool := c == ' ' || c == '\t'

def trimEnd (cs : List Char) : List Char := (cs.reverse.dropWhile isGap).reverse

/-- The interpreter that a text names in its first line, with the argument after it. -/
def interpreter? (text : String) : Option (String × List String) :=
  match text.toList with
  | '#' :: '!' :: rest =>
    let isEnd (c : Char) : Bool := isGap c || c == '\x00'
    let head := rest.take (headSize - 3)
    let isWhole := rest.length < headSize - 3
    let line := head.takeWhile (· != '\n')
    let hasEnd := line.length < head.length
    let name := line.dropWhile isGap
    let isCut := !hasEnd && !isWhole && !(name.any isEnd)
    let isBlank := name.isEmpty && (hasEnd || !isWhole)
    if isCut || isBlank then none
    else
      let path := name.takeWhile fun c => !isEnd c
      let argument := trimEnd ((name.drop path.length).dropWhile isGap)
      let argument := argument.takeWhile (· != '\x00')
      some (String.ofList path, if argument.isEmpty then [] else [String.ofList argument])
  | _ => none

/-- The mark at the front of machine instructions. -/
def instructionMark : String := "\x7fELF"

/-- The program whose instructions a text holds. -/
def programIn? (text : String) : Option String :=
  if text.startsWith instructionMark then
    let name := ((text.drop instructionMark.length).toString.splitOn "\x00").headD ""
    if text == instructionMark ++ name ++ "\x00" then some name else none
  else none

/-- How deep interpreters may be texts themselves. -/
def interpreterDepth : Nat := 5

/-- Look up a path that shall be executed; an empty one stands for the directory itself. -/
def Files.executable (f : Files) (directory : Nat) (path : String) : Except Refusal FileNode := do
  let n := f.node (← f.find directory true path)
  match n.content with
  | .file _ | .program _ => if n.allows 1 then .ok n else .error .denied
  | _ => .error .denied

/-- The program and the arguments that executing a path leads to. -/
def Files.resolve (f : Files) (directory : Nat) :
    Nat → String → List String → Except Refusal (String × List String)
  | 0, _, _ => .error .linkLoop
  | n + 1, path, arguments => do
    let node ← f.executable directory path
    match node.content with
    | .program name => .ok (name, arguments)
    | .file text =>
      match programIn? text, interpreter? text with
      | some name, _ => .ok (name, arguments)
      | none, none => .error .badFormat
      | none, some (name, argument) =>
        if name.isEmpty then .error .denied
        else f.resolve directory n name (name :: argument ++ path :: arguments.drop 1)
    | _ => .error .denied

/-- The program and the arguments behind a path, unless the arguments are too long. -/
def Files.program (f : Files) (directory : Nat) (path : String)
    (arguments environment : List String) : Except Refusal (String × List String) := do
  let _ ← f.executable directory path
  if isTooLong (path :: arguments ++ environment) then .error .listTooLong
  else f.resolve directory interpreterDepth path arguments

/-- The name under which a program's process is known: the last component, cut short. -/
def shortName (path : String) : String :=
  String.ofList (((path.splitOn "/").getLast?.getD path).toList.take 15)

/-- Run another program in a process. -/
def Proc.execute (programs : Programs) (f : Files) (p : Proc) (path : String)
    (arguments environment : List String) : Except Refusal Proc := do
  let (name, arguments) ← f.program p.directory path arguments environment
  .ok { p with
    doing := programs name arguments environment
    name := shortName path, words := arguments
    descriptors := p.descriptors.filter fun d => !d.fleeting
    handled := [] }

end StreamSupervisor.Machine
