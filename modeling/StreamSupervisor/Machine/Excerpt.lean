/-! # Excerpts

Cutting pieces out of long texts from a place on, where a place counts the bytes before it
as the text is stored.
-/

namespace StreamSupervisor.Machine.Excerpt

/-- The place after the first mark from a place on, if there is one. -/
def afterMark? (s : String) (mark : Char) : Nat → String.Pos.Raw → Option String.Pos.Raw
  | 0, _ => none
  | n + 1, p =>
    if p.atEnd s then none
    else if p.get s == mark then some (p.next s)
    else afterMark? s mark n (p.next s)

/-- The place so many characters further on. -/
def forward (s : String) : Nat → String.Pos.Raw → String.Pos.Raw
  | 0, p => p
  | n + 1, p => if p.atEnd s then p else forward s n (p.next s)

/-- What stands between a place and the mark that follows it, mark included, or between the
place and the end; and the place behind that. -/
def untilMark (s : String) (start : Nat) (mark : Char) : String × Nat :=
  let p : String.Pos.Raw := ⟨start⟩
  let q := (afterMark? s mark s.utf8ByteSize p).getD s.rawEndPos
  (String.Pos.Raw.extract s p q, q.byteIdx)

/-- At most so many characters from a place on, and the place behind them. -/
def upTo (s : String) (start most : Nat) : String × Nat :=
  let p : String.Pos.Raw := ⟨start⟩
  if s.utf8ByteSize ≤ start + most then
    (if start = 0 then s else String.Pos.Raw.extract s p s.rawEndPos, s.utf8ByteSize)
  else
    let q := forward s most p
    (String.Pos.Raw.extract s p q, q.byteIdx)

/-- The text from a place on. -/
def behind (s : String) (start : Nat) : String :=
  if start = 0 then s else String.Pos.Raw.extract s ⟨start⟩ s.rawEndPos

/-- Put a text over another one from a place on, with a gap filled by zeros. -/
def overwrite (s : String) (start : Nat) (text : String) : String :=
  let size := s.utf8ByteSize
  let front :=
    if size ≤ start then s ++ String.ofList (List.replicate (start - size) '\x00')
    else String.Pos.Raw.extract s ⟨0⟩ ⟨start⟩
  front ++ text ++ String.Pos.Raw.extract s ⟨start + text.utf8ByteSize⟩ s.rawEndPos

end StreamSupervisor.Machine.Excerpt
