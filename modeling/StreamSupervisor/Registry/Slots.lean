import StreamSupervisor.Channel

/-! # Slots

A place for at most one value on each channel. Reading a slot after a write, and the
ordered list of what the slots hold, say all there is to know about them.
-/

namespace StreamSupervisor

structure Slots (α : Type) where
  audio : Option α := none
  video : Option α := none
deriving DecidableEq, Repr

namespace Slots

variable {α β : Type}

def get (s : Slots α) : Channel → Option α
  | .audio => s.audio
  | .video => s.video

def put (s : Slots α) : Channel → Option α → Slots α
  | .audio, a => { s with audio := a }
  | .video, a => { s with video := a }

def set (s : Slots α) (c : Channel) (a : α) : Slots α := s.put c (some a)

def erase (s : Slots α) (c : Channel) : Slots α := s.put c none

def contains (s : Slots α) (c : Channel) : Bool := (s.get c).isSome

def walk (s : Slots α) (order : List Channel) : List (Channel × α) :=
  order.filterMap fun c => (s.get c).map (c, ·)

/-- What the slots hold, as a map gives it and then sorted by the channels. -/
def toList (s : Slots α) : List (Channel × α) := Channel.sortOn (·.1) (s.walk Channel.mapOrder)

def size (s : Slots α) : Nat := s.toList.length

def isEmpty (s : Slots α) : Bool := s.toList.isEmpty

@[ext] theorem ext_get {s t : Slots α} (h : ∀ c, s.get c = t.get c) : s = t := by
  cases s; cases t
  simp only [mk.injEq]
  exact ⟨h .audio, h .video⟩

@[simp] theorem get_empty (c : Channel) : ({} : Slots α).get c = none := by cases c <;> rfl

@[simp] theorem toList_empty : ({} : Slots α).toList = [] := rfl

theorem get_put (s : Slots α) (c d : Channel) (a : Option α) :
    (s.put c a).get d = if c = d then a else s.get d := by
  cases c <;> cases d <;> rfl

@[simp] theorem put_put (s : Slots α) (c : Channel) (a b : Option α) :
    (s.put c a).put c b = s.put c b := by
  cases c <;> rfl

theorem put_get (s : Slots α) (c : Channel) : s.put c (s.get c) = s := by
  cases c <;> rfl

theorem get_set (s : Slots α) (c d : Channel) (a : α) :
    (s.set c a).get d = if c = d then some a else s.get d :=
  get_put s c d _

theorem get_erase (s : Slots α) (c d : Channel) :
    (s.erase c).get d = if c = d then none else s.get d :=
  get_put s c d _

@[simp] theorem get_set_self (s : Slots α) (c : Channel) (a : α) :
    (s.set c a).get c = some a := by
  simp [get_set]

@[simp] theorem get_erase_self (s : Slots α) (c : Channel) : (s.erase c).get c = none := by
  simp [get_erase]

theorem pairwise_walk_all (s : Slots α) : (s.walk Channel.all).Pairwise fun p q => p.1 < q.1 := by
  rw [walk, List.pairwise_filterMap]
  refine Channel.all_pairwise.imp ?_
  intro c d hcd p hp q hq
  obtain ⟨_, _, rfl⟩ := Option.map_eq_some_iff.mp hp
  obtain ⟨_, _, rfl⟩ := Option.map_eq_some_iff.mp hq
  exact hcd

/-- In whatever order the slots are walked over, what is found comes to the same once it is
sorted. -/
theorem sortOn_walk (s : Slots α) {order : List Channel} (h : order.Perm Channel.all) :
    Channel.sortOn (·.1) (s.walk order) = s.walk Channel.all :=
  Channel.sortOn_eq_of_perm (h.filterMap _) s.pairwise_walk_all

theorem toList_eq_walk_all (s : Slots α) : s.toList = s.walk Channel.all :=
  s.sortOn_walk Channel.mapOrder_perm

theorem mem_toList {s : Slots α} {c : Channel} {a : α} :
    (c, a) ∈ s.toList ↔ s.get c = some a := by
  simp [toList_eq_walk_all, walk, List.mem_filterMap, Option.map_eq_some_iff]

theorem pairwise_toList (s : Slots α) : s.toList.Pairwise fun p q => p.1 < q.1 :=
  s.toList_eq_walk_all ▸ s.pairwise_walk_all

theorem isEmpty_iff {s : Slots α} : s.isEmpty = true ↔ s = {} := by
  constructor
  · intro h
    ext c a
    simp [← mem_toList, List.isEmpty_iff.mp h]
  · rintro rfl
    rfl

end Slots

end StreamSupervisor
