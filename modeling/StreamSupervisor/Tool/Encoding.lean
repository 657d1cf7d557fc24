import StreamSupervisor.Tool.Pieces

/-! # Encodings

Bytes written with few characters: in digits of four, five or six bits, or bit by bit.
-/

namespace StreamSupervisor.Tool

open Machine

namespace Encoding

/-- Digits of so many bits, in groups that stand for whole bytes. -/
structure Code where
  bits : Nat
  alphabet : List Char
  /-- How many digits are a group. -/
  group : Nat
  /-- Whether groups are filled up. -/
  padded : Bool := true
  /-- Whether the first bit of a byte is its lowest one. -/
  lowFirst : Bool := false

def capitals : List Char := "ABCDEFGHIJKLMNOPQRSTUVWXYZ".toList

def smallLetters : List Char := "abcdefghijklmnopqrstuvwxyz".toList

def decimals : List Char := "0123456789".toList

def sixtyFour : Code := ⟨6, capitals ++ smallLetters ++ decimals ++ ['+', '/'], 4, true, false⟩

def forAddresses : Code := { sixtyFour with
  alphabet := capitals ++ smallLetters ++ decimals ++ ['-', '_'] }

def thirtyTwo : Code := ⟨5, capitals ++ "234567".toList, 8, true, false⟩

def thirtyTwoHex : Code := { thirtyTwo with alphabet := decimals ++ capitals.take 22 }

def sixteen : Code := ⟨4, decimals ++ capitals.take 6, 2, false, false⟩

def highBits : Code := ⟨1, ['0', '1'], 8, false, false⟩

def lowBits : Code := { highBits with lowFirst := true }

def reversedByte (v : Nat) : Nat :=
  (List.range 8).foldl (fun n i => n * 2 + v / Nat.pow 2 i % 2) 0

/-- The digits of a group of bytes, filled up to whole groups. -/
def Code.encodeGroup (k : Code) (bytes : List Nat) : List Char :=
  let bytes := if k.lowFirst then bytes.map reversedByte else bytes
  let all := bytes.foldl (fun n b => n * 256 + b) 0
  let count := (bytes.length * 8 + k.bits - 1) / k.bits
  let all := all * Nat.pow 2 (count * k.bits - bytes.length * 8)
  let ds := (List.range count).reverse.map fun i =>
    (k.alphabet[all / Nat.pow 2 (i * k.bits) % Nat.pow 2 k.bits]?).getD '='
  ds ++ List.replicate (if k.padded then k.group - count else 0) '='

def Code.encode (k : Code) (text : String) : List Char :=
  let bytes := text.toList.map (·.toNat)
  ((chunks (k.group * k.bits / 8) (bytes.length + 1) bytes).map k.encodeGroup).flatten

/-- The bytes that so many digits make, and whether they are a sound group. -/
def Code.decodeGroup (k : Code) (cs : List Char) : List Char × Bool :=
  let ds := (cs.map fun c => k.alphabet.findIdx? (· == c)).takeWhile Option.isSome
  let ds := ds.filterMap id
  let rest := cs.drop ds.length
  let all := ds.foldl (fun n d => n * Nat.pow 2 k.bits + d) 0
  /- A group of eight digits that was cut short tells nothing. -/
  let count := if k.group = 8 && cs.length < 8 then 0 else ds.length * k.bits / 8
  let all := all / Nat.pow 2 (ds.length * k.bits - count * 8)
  let bytes := (List.range count).reverse.map fun i => all / Nat.pow 256 i % 256
  let bytes := if k.lowFirst then bytes.map reversedByte else bytes
  /- A group may be filled up if no digit less would do for its bytes. -/
  let isShort := decide (0 < count) && decide ((ds.length - 1) * k.bits < count * 8)
  let sound := decide (cs.length = k.group) && (rest.isEmpty ||
    k.padded && isShort && rest.all (· == '='))
  (bytes.map Char.ofNat, sound)

/-- The bytes up to the first group that is not sound, and whether there is none. -/
def Code.decode (k : Code) : List (List Char) → List (List Char) → List Char × Bool
  | [], out => (out.reverse.flatten, true)
  | g :: gs, out =>
    match k.decodeGroup g with
    | (bytes, true) => k.decode gs (bytes :: out)
    | (bytes, false) => ((bytes :: out).reverse.flatten, false)

/-- Encode or decode what options and operands say. -/
def Code.run (k : Code) (chosen : List Choice) (names : List String) : Chore Nat := do
  if 1 < names.length then do
    warn "extra operand"
    pure 1
  else do
    let (text, ok) ← allText names
    if !ok then pure 1
    else if has chosen ["d", "decode", "D"] then do
      let keeps (c : Char) : Bool :=
        if has chosen ["i", "ignore-garbage"] then k.alphabet.contains c || k.padded && c == '='
        else c != '\n'
      let cs := text.toList.filter keeps
      let (out, sound) := k.decode (chunks k.group (cs.length + 1) cs) []
      say (String.ofList out)
      if !sound then warn "invalid input"
      finish (if sound then 0 else 1)
    else do
      let out := k.encode text
      let width := ((valueOf? chosen ["w", "wrap"]).bind String.toNat?).getD 76
      if width = 0 then say (String.ofList out)
      else
        for l in chunks width (out.length + 1) out do say (String.ofList l ++ "\n")
      finish 0

def long : List (String × Arity) :=
  [("decode", .none), ("ignore-garbage", .none), ("wrap", .required)]

def checks : List Check := [⟨["w", "wrap"], 1, isDigits⟩]

/-- The codes that can be chosen by name. -/
def codes : List (String × Code) :=
  [("base64", sixtyFour), ("base64url", forAddresses), ("base32", thirtyTwo),
    ("base32hex", thirtyTwoHex), ("base16", sixteen), ("base2msbf", highBits),
    ("base2lsbf", lowBits)]

end Encoding

def base64 (args : List String) : Chore Nat :=
  withOptions { letters := "diw:", long := Encoding.long, checks := Encoding.checks } 1 args
    Encoding.sixtyFour.run

def base32 (args : List String) : Chore Nat :=
  withOptions { letters := "diw:", long := Encoding.long, checks := Encoding.checks } 1 args
    Encoding.thirtyTwo.run

def encodeAs (args : List String) : Chore Nat :=
  withOptions { letters := "diw:", checks := Encoding.checks
                long := Encoding.long ++ Encoding.codes.map (fun c => (c.1, .none)) ++
                  [("z85", .none)] } 1 args fun chosen names => do
    match chosen.filterMap (fun c => Encoding.codes.lookup c.name) with
    | [] => do
      warn "basenc: missing encoding type"
      pure 1
    | k :: ks => (ks.getLastD k).run chosen names

end StreamSupervisor.Tool
