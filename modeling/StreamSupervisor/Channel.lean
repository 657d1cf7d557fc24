import StreamSupervisor.Text.Blank

/-! # Channels

A channel names one of the two streams that run side by side. Its key is read without
regard to blank ends and ASCII case, and audio comes before video.
-/

namespace StreamSupervisor

inductive Channel where
  | audio
  | video
deriving DecidableEq, Repr

namespace Channel

def all : List Channel := [audio, video]

/-- The channels in an order in which a map might give them. -/
def mapOrder : List Channel := [video, audio]

def name : Channel → String
  | audio => "audio"
  | video => "video"

def rank : Channel → Nat
  | audio => 0
  | video => 1

instance : LE Channel := ⟨fun a b => a.rank ≤ b.rank⟩
instance : LT Channel := ⟨fun a b => a.rank < b.rank⟩

instance (a b : Channel) : Decidable (a ≤ b) := inferInstanceAs (Decidable (a.rank ≤ b.rank))
instance (a b : Channel) : Decidable (a < b) := inferInstanceAs (Decidable (a.rank < b.rank))

/-- Read a key: trimmed and in ASCII lower case it has to be a channel's name. -/
def ofKey? (key : String) : Option Channel :=
  all.find? fun c => c.name.toList = (trim key.toList).map Char.toLower

def other : Channel → Channel
  | audio => video
  | video => audio

@[simp] theorem mem_all (c : Channel) : c ∈ all := by cases c <;> simp [all]

theorem all_pairwise : all.Pairwise (· < ·) := by decide

theorem mapOrder_perm : mapOrder.Perm all := .swap audio video []

theorem ofKey?_eq_some_iff {key : String} {c : Channel} :
    ofKey? key = some c ↔ (trim key.toList).map Char.toLower = c.name.toList := by
  constructor
  · intro h
    have hc := List.find?_some h
    exact (of_decide_eq_true hc).symm
  · intro h
    cases c <;> simp [ofKey?, all, h, name]

@[simp] theorem ofKey?_name (c : Channel) : ofKey? c.name = some c := by
  cases c <;> decide

/-! ### Sorting by channels -/

section Sorting

variable {α : Type} {key : α → Channel} {a : α} {as bs : List α}

def insertOn (key : α → Channel) (a : α) : List α → List α
  | [] => [a]
  | b :: bs => if key a ≤ key b then a :: b :: bs else b :: insertOn key a bs

/-- Values in ascending order of their channels, those of one channel as they were given. -/
def sortOn (key : α → Channel) (as : List α) : List α := as.foldr (insertOn key) []

theorem insertOn_append (hbefore : ∀ b ∈ as, ¬ key a ≤ key b) (hafter : ∀ b ∈ bs, key a ≤ key b) :
    insertOn key a (as ++ bs) = as ++ a :: bs := by
  induction as with
  | nil =>
    cases bs with
    | nil => rfl
    | cons b bs => simp [insertOn, hafter b]
  | cons b as ih =>
    obtain ⟨hb, has⟩ := List.forall_mem_cons.mp hbefore
    simp [insertOn, hb, ih has]

theorem decide_le_trans (key : α → Channel) (a b c : α) (hab : decide (key a ≤ key b) = true)
    (hbc : decide (key b ≤ key c) = true) : decide (key a ≤ key c) = true :=
  decide_eq_true (Nat.le_trans (of_decide_eq_true hab) (of_decide_eq_true hbc))

theorem decide_le_total (key : α → Channel) (a b : α) :
    (decide (key a ≤ key b) || decide (key b ≤ key a)) = true := by
  rw [Bool.or_eq_true, decide_eq_true_eq, decide_eq_true_eq]
  exact Nat.le_total _ _

theorem sortOn_eq_mergeSort (key : α → Channel) (as : List α) :
    sortOn key as = as.mergeSort fun a b => decide (key a ≤ key b) := by
  induction as with
  | nil => simp [sortOn]
  | cons a as ih =>
    obtain ⟨before, after, hcons, has, hbefore⟩ :=
      List.mergeSort_cons (decide_le_trans key) (decide_le_total key) a as
    have hsorted := List.pairwise_mergeSort (decide_le_trans key) (decide_le_total key) (a :: as)
    rw [hcons, List.pairwise_append, List.pairwise_cons] at hsorted
    rw [hcons, sortOn, List.foldr_cons, ← sortOn, ih, has]
    exact insertOn_append (by simpa using hbefore)
      fun b hb => of_decide_eq_true (hsorted.2.1.1 b hb)

theorem sortOn_eq_of_perm (h : as.Perm bs) (hbs : bs.Pairwise fun a b => key a < key b) :
    sortOn key as = bs := by
  rw [sortOn_eq_mergeSort]
  have hperm := (List.mergeSort_perm as fun a b => decide (key a ≤ key b)).trans h
  have hsorted := List.pairwise_mergeSort (decide_le_trans key) (decide_le_total key) as
  have hle : bs.Pairwise fun a b => decide (key a ≤ key b) = true :=
    hbs.imp fun hab => decide_eq_true (Nat.le_of_lt hab)
  refine List.Perm.eq_of_pairwise (fun a b ha hb hab hba => ?_) hsorted hle hperm
  obtain ⟨i, hi, rfl⟩ := List.mem_iff_getElem.mp (hperm.mem_iff.mp ha)
  obtain ⟨j, hj, rfl⟩ := List.mem_iff_getElem.mp hb
  rw [List.pairwise_iff_getElem] at hbs
  rcases Nat.lt_trichotomy i j with hij | rfl | hij
  · exact absurd (of_decide_eq_true hba) (Nat.not_le_of_lt (hbs i j hi hj hij))
  · rfl
  · exact absurd (of_decide_eq_true hab) (Nat.not_le_of_lt (hbs j i hj hi hij))

end Sorting

def sorted (cs : List Channel) : List Channel := cs.mergeSort fun a b => decide (a ≤ b)

def tally (cs : List Channel) : List (Channel × Nat) := all.map fun c => (c, cs.count c)

def greatest? (cs : List Channel) : Option Channel := (sorted cs).getLast?

end Channel

end StreamSupervisor
