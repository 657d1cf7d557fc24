/-! # Blank text

Blank characters are those with the Unicode property White_Space. Trimming takes the
longest blank stretch off either end, so a text trims to nothing exactly if it is blank.
-/

namespace StreamSupervisor

/-- Code points with the property White_Space, as closed ranges. -/
def blankRanges : List (Nat × Nat) :=
  [(0x09, 0x0d), (0x20, 0x20), (0x85, 0x85), (0xa0, 0xa0), (0x1680, 0x1680),
    (0x2000, 0x200a), (0x2028, 0x2029), (0x202f, 0x202f), (0x205f, 0x205f), (0x3000, 0x3000)]

def isBlankChar (c : Char) : Bool :=
  blankRanges.any fun r => decide (r.1 ≤ c.toNat ∧ c.toNat ≤ r.2)

/-- A text of blank characters only, the empty text included. -/
def Blank (s : String) : Prop := ∀ c ∈ s.toList, isBlankChar c = true

instance (s : String) : Decidable (Blank s) :=
  inferInstanceAs (Decidable (∀ c ∈ s.toList, isBlankChar c = true))

def trimLeft (s : List Char) : List Char := s.dropWhile isBlankChar

/-- Take the blank characters off both ends. -/
def trim (s : List Char) : List Char := (trimLeft (trimLeft s).reverse).reverse

def isBlank (s : String) : Bool := (trim s.toList).isEmpty

theorem trimLeft_eq_nil_iff {s : List Char} :
    trimLeft s = [] ↔ ∀ c ∈ s, isBlankChar c = true := by
  induction s with
  | nil => simp [trimLeft]
  | cons a s ih =>
    cases ha : isBlankChar a
    · simp [trimLeft, ha]
    · rw [show trimLeft (a :: s) = trimLeft s by simp [trimLeft, ha], ih]
      simp [ha]

theorem trim_eq_nil_iff {s : List Char} :
    trim s = [] ↔ ∀ c ∈ s, isBlankChar c = true := by
  rw [trim, List.reverse_eq_nil_iff, trimLeft_eq_nil_iff]
  constructor
  · intro h
    induction s with
    | nil => simp
    | cons a s ih =>
      cases ha : isBlankChar a with
      | true =>
        have hd : trimLeft (a :: s) = trimLeft s := by simp [trimLeft, ha]
        intro c hc
        rcases List.mem_cons.mp hc with rfl | hc
        · exact ha
        · exact ih (hd ▸ h) c hc
      | false =>
        have hd : trimLeft (a :: s) = a :: s := by simp [trimLeft, ha]
        have := h a (by simp [hd])
        simp [ha] at this
  · intro h c hc
    exact h c ((List.dropWhile_sublist _).subset (List.mem_reverse.mp hc))

theorem isBlank_iff (s : String) : isBlank s = true ↔ Blank s := by
  rw [isBlank, List.isEmpty_iff, trim_eq_nil_iff, Blank]

end StreamSupervisor
