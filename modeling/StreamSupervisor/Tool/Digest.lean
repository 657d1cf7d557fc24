import StreamSupervisor.Tool.Streams

/-! # Digests

Short numbers that tell files apart, and programs that show and check them.
-/

namespace StreamSupervisor.Tool

open Machine

namespace Digest

/-! ## Blocks -/

/-- A message filled up to whole blocks: a one bit, zeros, and the length in bits. -/
def padded (block lengthSize : Nat) (bigEndian : Bool) (bs : List Nat) : Array Nat :=
  let n := bs.length
  let zeros := (block - (n + 1 + lengthSize) % block) % block
  let lengthBytes := (List.range lengthSize).map fun i => n * 8 / Nat.pow 256 i % 256
  (bs ++ 128 :: List.replicate zeros 0 ++
    (if bigEndian then lengthBytes.reverse else lengthBytes)).toArray

/-- A number from so many bytes at a place. -/
def wordAt (bs : Array Nat) (place size : Nat) (bigEndian : Bool) : Nat :=
  (List.range size).foldl (fun v i =>
    v * 256 + bs.getD (place + if bigEndian then i else size - 1 - i) 0) 0

def hexByte (b : Nat) : String :=
  let ds := digits 16 b
  if ds.length < 2 then "0" ++ ds else ds

/-- A number as so many bytes in base sixteen. -/
def hexWord (size v : Nat) (bigEndian : Bool) : String :=
  let bs := (List.range size).map fun i => hexByte (v / Nat.pow 256 i % 256)
  String.join (if bigEndian then bs.reverse else bs)

/-! ## Roots of primes -/

def isPrime (n : Nat) : Bool :=
  2 ≤ n && (List.range n).all fun d => d < 2 || n % d != 0

def primes : Array Nat := ((List.range 420).filter isPrime).toArray

/-- The greatest number whose power is not above another one, by halving an interval. -/
def rootBelow (power n : Nat) : Nat → Nat → Nat → Nat
  | 0, low, _ => low
  | k + 1, low, high =>
    let middle := (low + high) / 2
    if high ≤ low + 1 then low
    else if Nat.pow middle power ≤ n then rootBelow power n k middle high
    else rootBelow power n k low middle

/-- The first bits behind the point of a root of a number. -/
def rootFraction (power bits n : Nat) : Nat :=
  let scaled := n * Nat.pow (Nat.pow 2 bits) power
  rootBelow power scaled (bits + 8) 0 (Nat.pow 2 (bits + 6)) % Nat.pow 2 bits

/-! ## Rotating words of some size -/

/-- Words of so many bits. -/
structure Width where
  bits : Nat

namespace Width

variable (w : Width)

def cap (x : Nat) : Nat := x % Nat.pow 2 w.bits

def rotateLeft (x k : Nat) : Nat := w.cap (x <<< k) ||| (x >>> (w.bits - k))

def rotateRight (x k : Nat) : Nat := w.rotateLeft x (w.bits - k)

def complement (x : Nat) : Nat := Nat.pow 2 w.bits - 1 - x

end Width

def word32 : Width := ⟨32⟩
def word64 : Width := ⟨64⟩

/-! ## The older digests -/

def sines : Array Nat :=
  ((List.range 64).map fun i =>
    ((Float.sin (Float.ofNat (i + 1))).abs * 4294967296.0).floor.toUInt64.toNat).toArray

def turns : Array Nat :=
  #[7, 12, 17, 22, 5, 9, 14, 20, 4, 11, 16, 23, 6, 10, 15, 21]

def ofMd5 (bs : List Nat) : String := Id.run do
  let w := word32
  let data := padded 64 8 false bs
  let mut s := #[0x67452301, 0xefcdab89, 0x98badcfe, 0x10325476]
  for block in List.range (data.size / 64) do
    let mut a := s.getD 0 0
    let mut b := s.getD 1 0
    let mut c := s.getD 2 0
    let mut d := s.getD 3 0
    for i in List.range 64 do
      let (f, g) :=
        if i < 16 then ((b &&& c) ||| (w.complement b &&& d), i)
        else if i < 32 then ((d &&& b) ||| (w.complement d &&& c), (5 * i + 1) % 16)
        else if i < 48 then (b ^^^ c ^^^ d, (3 * i + 5) % 16)
        else (c ^^^ (b ||| w.complement d), 7 * i % 16)
      let m := wordAt data (block * 64 + g * 4) 4 false
      let sum := w.cap (a + f + sines.getD i 0 + m)
      let next := w.cap (b + w.rotateLeft sum (turns.getD (i / 16 * 4 + i % 4) 0))
      a := d
      d := c
      c := b
      b := next
    s := #[w.cap (s.getD 0 0 + a), w.cap (s.getD 1 0 + b), w.cap (s.getD 2 0 + c),
      w.cap (s.getD 3 0 + d)]
  return String.join (s.toList.map fun v => hexWord 4 v false)

def ofSha1 (bs : List Nat) : String := Id.run do
  let w := word32
  let data := padded 64 8 true bs
  let mut s := #[0x67452301, 0xefcdab89, 0x98badcfe, 0x10325476, 0xc3d2e1f0]
  for block in List.range (data.size / 64) do
    let mut m : Array Nat := #[]
    for i in List.range 80 do
      let at_ (j : Nat) : Nat := m.getD (i - j) 0
      let v := if i < 16 then wordAt data (block * 64 + i * 4) 4 true
        else w.rotateLeft (at_ 3 ^^^ at_ 8 ^^^ at_ 14 ^^^ at_ 16) 1
      m := m.push v
    let mut v := s
    for i in List.range 80 do
      let a := v.getD 0 0
      let b := v.getD 1 0
      let c := v.getD 2 0
      let d := v.getD 3 0
      let (f, k) :=
        if i < 20 then ((b &&& c) ||| (w.complement b &&& d), 0x5a827999)
        else if i < 40 then (b ^^^ c ^^^ d, 0x6ed9eba1)
        else if i < 60 then ((b &&& c) ||| (b &&& d) ||| (c &&& d), 0x8f1bbcdc)
        else (b ^^^ c ^^^ d, 0xca62c1d6)
      let t := w.cap (w.rotateLeft a 5 + f + v.getD 4 0 + k + m.getD i 0)
      v := #[t, a, w.rotateLeft b 30, c, d]
    s := ((s.toList.zip v.toList).map fun p => w.cap (p.1 + p.2)).toArray
  return String.join (s.toList.map fun v => hexWord 4 v true)

/-! ## The younger digests -/

/-- How the words of a digest of the younger family are mixed. -/
structure Family where
  width : Width
  rounds : Nat
  /-- Amounts of turning: two sums of three each, and two of two with a shift. -/
  big0 : List Nat
  big1 : List Nat
  small0 : List Nat
  small1 : List Nat

def family32 : Family :=
  ⟨word32, 64, [2, 13, 22], [6, 11, 25], [7, 18, 3], [17, 19, 10]⟩

def family64 : Family :=
  ⟨word64, 80, [28, 34, 39], [14, 18, 41], [1, 8, 7], [19, 61, 6]⟩

def Family.constants (f : Family) : Array Nat :=
  ((List.range f.rounds).map fun i => rootFraction 3 f.width.bits (primes.getD i 2)).toArray

def constants32 : Array Nat := family32.constants
def constants64 : Array Nat := family64.constants

def ofFamily (f : Family) (k initial : Array Nat) (kept : Nat) (bs : List Nat) : String := Id.run do
  let w := f.width
  let size := w.bits / 8
  let data := padded (size * 16) (size * 2) true bs
  let turn (rs : List Nat) (shifts : Bool) (x : Nat) : Nat :=
    match rs with
    | [a, b, c] => w.rotateRight x a ^^^ w.rotateRight x b ^^^
      (if shifts then x >>> c else w.rotateRight x c)
    | _ => 0
  let mut s := initial
  for block in List.range (data.size / (size * 16)) do
    let mut m : Array Nat := #[]
    for i in List.range f.rounds do
      let at_ (j : Nat) : Nat := m.getD (i - j) 0
      let v := if i < 16 then wordAt data (block * size * 16 + i * size) size true
        else w.cap (turn f.small1 true (at_ 2) + at_ 7 + turn f.small0 true (at_ 15) + at_ 16)
      m := m.push v
    let mut v := s
    for i in List.range f.rounds do
      let a := v.getD 0 0
      let b := v.getD 1 0
      let c := v.getD 2 0
      let e := v.getD 4 0
      let choice := (e &&& v.getD 5 0) ^^^ (w.complement e &&& v.getD 6 0)
      let t := v.getD 7 0 + turn f.big1 false e + choice + k.getD i 0 + m.getD i 0
      let majority := (a &&& b) ^^^ (a &&& c) ^^^ (b &&& c)
      let u := turn f.big0 false a + majority
      v := #[w.cap (t + u), a, b, c, w.cap (v.getD 3 0 + t), e, v.getD 5 0, v.getD 6 0]
    s := ((s.toList.zip v.toList).map fun p => w.cap (p.1 + p.2)).toArray
  return String.ofList ((String.join (s.toList.map fun v => hexWord size v true)).toList.take kept)

/-- The fractions of the square roots of eight primes. -/
def squareRoots (bits first : Nat) : Array Nat :=
  ((List.range 8).map fun i => rootFraction 2 bits (primes.getD (first + i) 2)).toArray

def ofSha256 : List Nat → String := ofFamily family32 constants32 (squareRoots 32 0) 64

def ofSha224 : List Nat → String :=
  ofFamily family32 constants32
    (((squareRoots 64 8).toList.map fun v => v % Nat.pow 2 32).toArray) 56

def ofSha512 : List Nat → String := ofFamily family64 constants64 (squareRoots 64 0) 128

def ofSha384 : List Nat → String := ofFamily family64 constants64 (squareRoots 64 8) 96

/-! ## Mixing by halves -/

def mixOrder : Array (Array Nat) :=
  #[#[0, 1, 2, 3, 4, 5, 6, 7, 8, 9, 10, 11, 12, 13, 14, 15],
    #[14, 10, 4, 8, 9, 15, 13, 6, 1, 12, 0, 2, 11, 7, 5, 3],
    #[11, 8, 12, 0, 5, 2, 15, 13, 10, 14, 3, 6, 7, 1, 9, 4],
    #[7, 9, 3, 1, 13, 12, 11, 14, 2, 6, 5, 10, 4, 0, 15, 8],
    #[9, 0, 5, 7, 2, 4, 10, 15, 14, 1, 11, 12, 6, 8, 3, 13],
    #[2, 12, 6, 10, 0, 11, 8, 3, 4, 13, 7, 5, 15, 14, 1, 9],
    #[12, 5, 1, 15, 14, 13, 4, 10, 0, 7, 6, 3, 9, 2, 8, 11],
    #[13, 11, 7, 14, 12, 1, 3, 9, 5, 0, 15, 4, 8, 6, 2, 10],
    #[6, 15, 14, 9, 11, 3, 0, 8, 12, 2, 13, 7, 1, 4, 10, 5],
    #[10, 2, 8, 4, 7, 6, 1, 5, 15, 11, 9, 14, 3, 12, 13, 0]]

def ofBlake (bs : List Nat) : String := Id.run do
  let w := word64
  let iv := squareRoots 64 0
  let n := bs.length
  let blocks := Nat.max 1 ((n + 127) / 128)
  let data := (bs ++ List.replicate (blocks * 128 - n) 0).toArray
  let mut h := iv.setIfInBounds 0 (iv.getD 0 0 ^^^ 0x01010040)
  for block in List.range blocks do
    let final := block + 1 = blocks
    let count := if final then n else (block + 1) * 128
    let m (i : Nat) : Nat := wordAt data (block * 128 + i * 8) 8 false
    let mut v := h ++ iv
    v := v.setIfInBounds 12 (v.getD 12 0 ^^^ count)
    if final then v := v.setIfInBounds 14 (w.complement (v.getD 14 0))
    for round in List.range 12 do
      let order := mixOrder.getD (round % 10) #[]
      for (p, i) in [(0, 4, 8, 12), (1, 5, 9, 13), (2, 6, 10, 14), (3, 7, 11, 15),
          (0, 5, 10, 15), (1, 6, 11, 12), (2, 7, 8, 13), (3, 4, 9, 14)].zipIdx do
        let (ia, ib, ic, id_) := p
        let x := m (order.getD (2 * i) 0)
        let y := m (order.getD (2 * i + 1) 0)
        let a := w.cap (v.getD ia 0 + v.getD ib 0 + x)
        let d := w.rotateRight (v.getD id_ 0 ^^^ a) 32
        let c := w.cap (v.getD ic 0 + d)
        let b := w.rotateRight (v.getD ib 0 ^^^ c) 24
        let a := w.cap (a + b + y)
        let d := w.rotateRight (d ^^^ a) 16
        let c := w.cap (c + d)
        let b := w.rotateRight (b ^^^ c) 63
        v := (((v.setIfInBounds ia a).setIfInBounds ib b).setIfInBounds ic c).setIfInBounds id_ d
    h := ((List.range 8).map fun i => h.getD i 0 ^^^ v.getD i 0 ^^^ v.getD (i + 8) 0).toArray
  return String.join (h.toList.map fun x => hexWord 8 x false)

/-! ## Sums -/

/-- A byte worked into the remainder of a division of polynomials. -/
def crcByte (crc b : Nat) : Nat :=
  let start := crc ^^^ (b <<< 24)
  (List.range 8).foldl (fun c _ =>
    let d := c * 2
    if d < 4294967296 then d else (d - 4294967296) ^^^ 0x04c11db7) start

def ofCrc (bs : List Nat) : Nat :=
  let rec lengthBytes : Nat → Nat → List Nat
    | 0, _ => []
    | k + 1, n => if n = 0 then [] else n % 256 :: lengthBytes k (n / 256)
  let c := (bs ++ lengthBytes 8 bs.length).foldl crcByte 0
  4294967295 - c

/-- The old sum that is turned after each byte. -/
def turnedSum (bs : List Nat) : Nat :=
  bs.foldl (fun s b => (s / 2 + s % 2 * 32768 + b) % 65536) 0

/-- The old sum of all bytes, folded twice. -/
def foldedSum (bs : List Nat) : Nat :=
  let s := bs.foldl (· + ·) 0 % 4294967296
  let r := s % 65536 + s / 65536
  r % 65536 + r / 65536

end Digest

/-! ## Showing and checking -/

/-- The digest and the name in a line of a list, if it is one. -/
def digestLine? (size : Nat) (line : String) : Option (String × String) :=
  let isHex (s : String) : Bool := s.length = size && s.all fun c => (digitValue? c).any (· < 16)
  match line.splitOn ") = " with
  | [front, digest] =>
    match front.splitOn " (" with
    | _ :: name => if isHex digest then some (digest, " (".intercalate name) else none
    | [] => none
  | _ =>
    let line := if line.startsWith "\\" then dropChars 1 line else line
    let digest := String.ofList (line.toList.take size)
    match line.toList.drop size with
    | ' ' :: mark :: name =>
      if isHex digest && !name.isEmpty && (mark == ' ' || mark == '*') then
        some (digest.toLower, String.ofList name)
      else none
    | _ => none

/-- Check the files of a list against their digests. -/
def checkDigests (digest : List Nat → String) (size : Nat) (chosen : List Choice)
    (names : List String) : Chore Nat := do
  let quiet := has chosen ["status"]
  let mut code := 0
  for name in (if names.isEmpty then ["-"] else names) do
    let (text, ok) ← allText [name]
    if !ok then code := 1
    else
      let found := (lines text).map (digestLine? size)
      let entries := found.filterMap id
      if has chosen ["strict"] && found.any (·.isNone) then code := 1
      if entries.isEmpty then do
        warn (name ++ ": no properly formatted checksum lines found")
        code := 1
      let mut verified := false
      for (d, file) in entries do
        match ← openInput file with
        | some fd => do
          let text ← readAll fd
          close fd
          verified := true
          if digest (text.toList.map (·.toNat)) == d.toLower then
            if !quiet && !has chosen ["quiet"] then say (file ++ ": OK\n")
          else do
            if !quiet then say (file ++ ": FAILED\n")
            code := 1
        | none =>
          if has chosen ["ignore-missing"] && (← inspect? file true).isNone then pure ()
          else do
            if !quiet then say (file ++ ": FAILED open or read\n")
            code := 1
      if has chosen ["ignore-missing"] && !verified then code := 1
  finish code

/-- A program that shows or checks the digests of files. -/
def showDigests (title : String) (digest : List Nat → String) (size : Nat)
    (args : List String) : Chore Nat :=
  let letters := if title == "BLAKE2b" then "bctwzl:" else "bctwz"
  withOptions { letters := letters, long := [("binary", .none), ("check", .none),
    ("tag", .none), ("text", .none), ("zero", .none), ("ignore-missing", .none),
    ("quiet", .none), ("status", .none), ("strict", .none), ("warn", .none)] } 1 args
    fun chosen names => do
    let checking := has chosen ["c", "check"]
    let forChecking := has chosen ["ignore-missing", "quiet", "status", "strict", "w", "warn"]
    let forShowing := has chosen ["tag", "z", "zero"] || has chosen ["b", "t", "binary", "text"]
    let tagged := has chosen ["tag"]
    if !checking && forChecking || checking && forShowing || tagged && has chosen ["t", "text"]
    then do
      warn "an option is of no use here"
      pure 1
    else if checking then checkDigests digest size chosen names
    else do
      let code ← eachInput names 1 fun name d => do
        let text ← readAll d
        let shown := digest (text.toList.map (·.toNat))
        let mark := if has chosen ["b", "binary"] then " *" else "  "
        let ending := if has chosen ["z", "zero"] then "\x00" else "\n"
        say ((if tagged then title ++ " (" ++ name ++ ") = " ++ shown
          else shown ++ mark ++ name) ++ ending)
      finish code

/-- The digests that can be asked for by name. -/
def digestsByName : List (String × String × (List Nat → String) × Nat) :=
  [("md5", "MD5", Digest.ofMd5, 32), ("sha1", "SHA1", Digest.ofSha1, 40),
    ("sha224", "SHA224", Digest.ofSha224, 56), ("sha256", "SHA256", Digest.ofSha256, 64),
    ("sha384", "SHA384", Digest.ofSha384, 96), ("sha512", "SHA512", Digest.ofSha512, 128),
    ("blake2b", "BLAKE2b", Digest.ofBlake, 128)]

/-- The programs that are named for a digest. -/
def digestPrograms : List (String × (List String → Chore Nat)) :=
  digestsByName.map fun (name, title, digest, size) =>
    ((if name == "blake2b" then "b2sum" else name ++ "sum"), showDigests title digest size)

/-- Show the sum and the size of each input, in columns where asked. -/
def showSums (sum : List Nat → Nat) (unit : Nat) (columns named : Bool) (names : List String) :
    Chore Nat := do
  let padded (fill : Char) (n : Nat) : String :=
    let ds := toString n
    if columns then String.ofList (List.replicate (5 - ds.length) fill) ++ ds else ds
  let code ← eachInput names 1 fun name d => do
    let text ← readAll d
    let bs := text.toList.map (·.toNat)
    let size := (bs.length + unit - 1) / unit
    say (padded '0' (sum bs) ++ " " ++ padded ' ' size ++
      (if named || 1 < names.length then " " ++ name else "") ++ "\n")
  finish code

def checkSum (args : List String) : Chore Nat :=
  withOptions { letters := "a:cl:wz", long := [("algorithm", .required), ("check", .none),
    ("untagged", .none), ("tag", .none), ("length", .required), ("zero", .none),
    ("ignore-missing", .none), ("quiet", .none), ("status", .none), ("strict", .none),
    ("warn", .none), ("debug", .none), ("raw", .none), ("base64", .none)], checks := [
      .words ["a", "algorithm"] (["sysv", "bsd", "crc", "sm3"] ++ digestsByName.map (·.1))] } 1
    args fun chosen names => do
    match valueOf? chosen ["a", "algorithm"] with
    | none | some "crc" =>
      if has chosen ["c", "check"] then pure 1
      else showSums Digest.ofCrc 1 false (!names.isEmpty) names
    | some "bsd" => showSums Digest.turnedSum 1024 true (!names.isEmpty) names
    | some "sysv" => showSums Digest.foldedSum 512 false (!names.isEmpty) names
    | some name =>
      match digestsByName.lookup name with
      | some (title, digest, size) =>
        if has chosen ["c", "check"] then checkDigests digest size chosen names
        else
          showDigests title digest size ((if has chosen ["untagged"] then [] else ["--tag"]) ++
            "--" :: names)
      | none => pure 0

def oldSum (args : List String) : Chore Nat :=
  withOptions { letters := "rs", long := [("sysv", .none)] } 1 args fun chosen names =>
    if has chosen ["s", "sysv"] then showSums Digest.foldedSum 512 false (!names.isEmpty) names
    else showSums Digest.turnedSum 1024 true (1 < names.length) names

end StreamSupervisor.Tool
