import Mathlib.Data.List.Induction
import Mathlib.Data.List.Perm.Basic
import StreamSupervisor.Registry.Ledger

/-! # Handles are neither lost nor duplicated

A handle that was put into a registry is shown there until one step takes it out and gives it
back. So at any time each handle is either on show or was given back once, and a channel shows
what was put in last, unless it was taken out since.
-/

namespace StreamSupervisor

namespace Slots

variable {α : Type}

theorem toList_perm (s : Slots α) (c : Channel) :
    s.toList.Perm (((s.get c).map (c, ·)).toList ++ (s.erase c).toList) := by
  rcases s with ⟨_ | a, _ | v⟩ <;> cases c <;>
    simp [toList_eq_walk_all, walk, Channel.all, get, erase, put, List.Perm.swap]

theorem toList_set_perm (s : Slots α) (c : Channel) (a : α) :
    (s.set c a).toList.Perm ((c, a) :: (s.erase c).toList) := by
  rcases s with ⟨_ | _, _ | _⟩ <;> cases c <;>
    simp [toList_eq_walk_all, walk, Channel.all, get, set, erase, put, List.Perm.swap]

end Slots

def Handle.fresh (h : Handle) : Handle := { h with fired := false, exit := none }

namespace Ledger

/-- The handles that a reply gives back, with their numbers. -/
def Reply.returned : Reply → List (Nat × Handle)
  | taken h => h.toList
  | drained hs => hs.map (·.2)
  | _ => []

namespace Step

def handle? : Step → Option Handle
  | set c pid spec sink => some { channel := c, pid := pid, spec := spec, sink := sink }
  | _ => none

/-- Whether a step takes out what a channel shows. -/
def takes (c : Channel) : Step → Bool
  | set d .. | delete d => decide (d = c)
  | drain => true
  | _ => false

theorem takes_of_handle? {s : Step} {h : Handle} (hs : s.handle? = some h) :
    s.takes h.channel = true := by
  cases s with
  | set c pid spec sink =>
    obtain rfl := Option.some.inj hs
    simp [takes]
  | _ => cases hs

end Step

variable {l : Ledger} {s : Step} {c : Channel} {i : Nat} {h : Handle}

/-- Each handle on show is on record, and on the channel that it was put under. -/
def Lodged (l : Ledger) : Prop :=
  ∀ c i, l.current.get c = some i → ∃ h, l.handles[i]? = some h ∧ h.channel = c

/-- A handle was put in under a channel, and since then nothing was taken out there. -/
def Stands (steps : List Step) (c : Channel) (i : Nat) : Prop :=
  ∃ before s after h, steps = before ++ s :: after ∧ s.handle? = some h ∧ h.channel = c ∧
    (before.filterMap Step.handle?).length = i ∧ ∀ s' ∈ after, s'.takes c = false

/-! ### One step -/

theorem shown?_eq_some_iff :
    l.shown? c = some (i, h) ↔ l.current.get c = some i ∧ l.handles[i]? = some h := by
  simp only [shown?, Option.bind_eq_some_iff, Option.map_eq_some_iff, Prod.mk.injEq]
  constructor
  · rintro ⟨j, hj, h', hh, rfl, rfl⟩
    exact ⟨hj, hh⟩
  · rintro ⟨hi, hh⟩
    exact ⟨i, hi, h, hh, rfl, rfl⟩

theorem mem_entries {p : Nat × Handle} : (c, p) ∈ l.entries ↔ l.shown? c = some p := by
  simp [entries_eq_filterMap, List.mem_filterMap, Option.map_eq_some_iff]

theorem Lodged.map_shown? (hl : l.Lodged) (c : Channel) :
    (l.shown? c).map (·.1) = l.current.get c := by
  cases hc : l.current.get c with
  | none => simp [shown?, hc]
  | some i =>
    obtain ⟨h, hi, -⟩ := hl c i hc
    simp [shown?, hc, hi]

theorem Lodged.map_toList_shown? (hl : l.Lodged) (c : Channel) :
    (l.shown? c).toList.map (·.1) = (l.current.get c).toList := by
  rw [← hl.map_shown? c]
  cases l.shown? c <;> rfl

theorem Lodged.channel_of_shown? (hl : l.Lodged) (hs : l.shown? c = some (i, h)) :
    h.channel = c := by
  obtain ⟨hc, hi⟩ := shown?_eq_some_iff.mp hs
  obtain ⟨h', hi', rfl⟩ := hl c i hc
  rw [Option.some.inj (hi.symm.trans hi')]

theorem fresh_handles_step (l : Ledger) (s : Step) :
    (l.step s).1.handles.map Handle.fresh = l.handles.map Handle.fresh ++ s.handle?.toList := by
  have modify (i : Nat) {f : Handle → Handle} (hf : ∀ h, (f h).fresh = h.fresh) :
      (l.handles.modify i f).map Handle.fresh = l.handles.map Handle.fresh := by
    refine List.ext_getElem? fun j => ?_
    simp only [List.getElem?_map, List.getElem?_modify]
    cases l.handles[j]? with
    | none => rfl
    | some h => by_cases hj : i = j <;> simp [hj, hf]
  cases s with
  | cancel c =>
    simp only [step, Step.handle?, Option.toList_none, List.append_nil]
    split
    · exact modify _ fun _ => rfl
    · rfl
  | cancelRemoved i =>
    simp only [step, Step.handle?, Option.toList_none, List.append_nil]
    split
    · exact modify _ fun _ => rfl
    · rfl
  | setExit i outcome =>
    simp only [Step.handle?, Option.toList_none, List.append_nil]
    exact modify _ fun _ => rfl
  | set c pid spec sink => simp [step, Ledger.set, Step.handle?, Handle.fresh]
  | _ => simp [step, Step.handle?, delete, drain]

theorem current_step (l : Ledger) (s : Step) (c : Channel) :
    (l.step s).1.current.get c =
      if s.handle?.map (·.channel) = some c then some l.handles.length
      else if s.takes c then none else l.current.get c := by
  cases s with
  | set d pid spec sink =>
    by_cases hd : d = c <;> simp [step, Ledger.set, Step.handle?, Step.takes, Slots.get_set, hd]
  | delete d =>
    simp [step, Ledger.delete, Step.handle?, Step.takes, Slots.get_erase]
  | drain => simp [step, Ledger.drain, Step.handle?, Step.takes]
  | cancel d =>
    simp only [step]
    split <;> simp [Ledger.modify, Step.handle?, Step.takes]
  | cancelRemoved i =>
    simp only [step]
    split <;> simp [Ledger.modify, Step.handle?, Step.takes]
  | _ => simp [step, Ledger.modify, Step.handle?, Step.takes]

theorem length_handles_step (l : Ledger) (s : Step) :
    (l.step s).1.handles.length = l.handles.length + s.handle?.toList.length := by
  have h := congrArg List.length (l.fresh_handles_step s)
  simpa using h

theorem handle_step (hh : l.handles[i]? = some h) (s : Step) :
    ∃ h', (l.step s).1.handles[i]? = some h' ∧ h'.channel = h.channel := by
  have hi := (List.getElem?_eq_some_iff.mp hh).1
  have hf := congrArg (·[i]?) (l.fresh_handles_step s)
  simp only [List.getElem?_map] at hf
  rw [List.getElem?_append_left (by simpa using hi), List.getElem?_map, hh] at hf
  obtain ⟨h', hh', he⟩ := Option.map_eq_some_iff.mp hf
  exact ⟨h', hh', show h'.fresh.channel = h.fresh.channel from congrArg _ he⟩

theorem Lodged.step (hl : l.Lodged) (s : Step) : (l.step s).1.Lodged := by
  intro c i hc
  rw [current_step] at hc
  split at hc
  · -- the step has put in what is shown, under the next number
    obtain ⟨h, hs, hch⟩ := Option.map_eq_some_iff.mp ‹_›
    obtain rfl := Option.some.inj hc
    have hf := congrArg (·[l.handles.length]?) (l.fresh_handles_step s)
    simp only [List.getElem?_map, hs] at hf
    rw [List.getElem?_append_right (by simp)] at hf
    obtain ⟨h', hh', he⟩ := Option.map_eq_some_iff.mp (by simpa using hf)
    have hch' : h'.channel = h.channel := show h'.fresh.channel = _ from congrArg _ he
    exact ⟨h', hh', hch'.trans hch⟩
  · split at hc
    · cases hc
    · obtain ⟨h, hi, rfl⟩ := hl c i hc
      exact handle_step hi s

theorem mem_returned_iff (hl : l.Lodged) :
    (i, h) ∈ (l.step s).2.returned ↔
      s.takes h.channel = true ∧ l.shown? h.channel = some (i, h) := by
  have one (c : Channel) : (i, h) ∈ (l.shown? c).toList ↔
      c = h.channel ∧ l.shown? h.channel = some (i, h) := by
    rw [Option.mem_toList]
    constructor
    · intro hs
      obtain rfl := hl.channel_of_shown? hs
      exact ⟨rfl, hs⟩
    · rintro ⟨rfl, hs⟩
      exact hs
  cases s with
  | set c pid spec sink => simpa [Ledger.step, Reply.returned, Step.takes] using one c
  | delete c => simpa [Ledger.step, Reply.returned, Step.takes] using one c
  | drain =>
    simp only [Ledger.step, Reply.returned, Step.takes, List.mem_map, true_and]
    constructor
    · rintro ⟨⟨c, p⟩, hp, rfl⟩
      have hp := mem_entries.mp hp
      exact (hl.channel_of_shown? hp).symm ▸ hp
    · intro hs
      exact ⟨_, mem_entries.mpr hs, rfl⟩
  | cancel c =>
    simp only [Ledger.step]
    split <;> simp [Reply.returned, Step.takes]
  | cancelRemoved j =>
    simp only [Ledger.step]
    split <;> simp [Reply.returned, Step.takes]
  | _ => simp [Ledger.step, Reply.returned, Step.takes]

def numbers (l : Ledger) : List Nat := l.current.toList.map (·.2)

theorem numbers_perm (l : Ledger) (c : Channel) :
    l.numbers.Perm ((l.current.get c).toList ++ (l.current.erase c).toList.map (·.2)) := by
  have h := (l.current.toList_perm c).map (·.2)
  cases hc : l.current.get c <;> simpa [numbers, hc] using h

theorem Lodged.map_drained (hl : l.Lodged) : l.entries.map (·.2.1) = l.numbers := by
  simp only [entries_eq_filterMap, numbers, Slots.toList_eq_walk_all, Slots.walk,
    List.map_filterMap, ← hl.map_shown?, Option.map_map]
  rfl

theorem custody_step (hl : l.Lodged) (s : Step) :
    ((l.step s).2.returned.map (·.1) ++ (l.step s).1.numbers).Perm
      (l.numbers ++ List.range' l.handles.length s.handle?.toList.length) := by
  cases s with
  | set c pid spec sink =>
    have hset : (l.current.set c l.handles.length).toList.map (·.2) |>.Perm
        (l.handles.length :: (l.current.erase c).toList.map (·.2)) :=
      (l.current.toList_set_perm c _).map (·.2)
    simp only [Ledger.step, Reply.returned, hl.map_toList_shown?, numbers, Ledger.set, Step.handle?,
      Option.toList_some, List.length_singleton, List.range'_one]
    refine (hset.append_left _).trans ?_
    refine List.perm_middle.trans ?_
    exact ((l.numbers_perm c).symm.cons _).trans (List.perm_append_singleton _ _).symm
  | delete c =>
    simpa [Ledger.step, Reply.returned, hl.map_toList_shown?, numbers, Ledger.delete,
      Step.handle?] using (l.numbers_perm c).symm
  | drain =>
    simpa [Ledger.step, Reply.returned, Ledger.drain, Step.handle?, numbers,
      Function.comp_def] using List.Perm.of_eq hl.map_drained
  | cancel c =>
    simp only [Ledger.step]
    split <;> simp [Reply.returned, Step.handle?, numbers, Ledger.modify]
  | cancelRemoved j =>
    simp only [Ledger.step]
    split <;> simp [Reply.returned, Step.handle?, numbers, Ledger.modify]
  | _ => simp [Ledger.step, Reply.returned, Step.handle?, numbers, Ledger.modify]

/-! ### Any number of steps -/

def returned (l : Ledger) (steps : List Step) : List (Nat × Handle) :=
  (l.views steps).flatMap (·.reply.returned)

theorem returned_cons (l : Ledger) (s : Step) (rest : List Step) :
    l.returned (s :: rest) = (l.step s).2.returned ++ (l.step s).1.returned rest := rfl

theorem run_cons (l : Ledger) (s : Step) (rest : List Step) :
    l.run (s :: rest) = (l.step s).1.run rest := rfl

theorem run_concat (l : Ledger) (steps : List Step) (s : Step) :
    l.run (steps ++ [s]) = ((l.run steps).step s).1 := by
  simp [run]

theorem fresh_handles_run (l : Ledger) (steps : List Step) :
    (l.run steps).handles.map Handle.fresh =
      l.handles.map Handle.fresh ++ steps.filterMap Step.handle? := by
  induction steps generalizing l with
  | nil => simp [run]
  | cons s rest ih =>
    rw [run_cons, ih, fresh_handles_step, List.append_assoc]
    cases hs : s.handle? <;> simp [hs]

theorem length_handles_run (steps : List Step) :
    (({} : Ledger).run steps).handles.length = (steps.filterMap Step.handle?).length := by
  simpa using congrArg List.length (fresh_handles_run {} steps)

theorem Lodged.run (hl : l.Lodged) (steps : List Step) : (l.run steps).Lodged := by
  induction steps generalizing l with
  | nil => exact hl
  | cons s rest ih => exact ih (hl.step s)

theorem lodged_empty : ({} : Ledger).Lodged := fun c i hc => by simp at hc

theorem custody_run (hl : l.Lodged) (steps : List Step) :
    ((l.returned steps).map (·.1) ++ (l.run steps).numbers).Perm
      (l.numbers ++ List.range' l.handles.length (steps.filterMap Step.handle?).length) := by
  induction steps generalizing l with
  | nil => simp [returned, views, Ledger.run]
  | cons s rest ih =>
    have hlen : ((s :: rest).filterMap Step.handle?).length =
        s.handle?.toList.length + (rest.filterMap Step.handle?).length := by
      cases hs : s.handle? <;> simp [hs, Nat.add_comm]
    have hrest := ih (hl.step s)
    rw [length_handles_step] at hrest
    rw [returned_cons, run_cons, List.map_append, List.append_assoc, hlen, ← List.range'_append_1]
    refine (hrest.append_left _).trans ?_
    rw [← List.append_assoc, ← List.append_assoc]
    exact (custody_step hl s).append_right _

theorem stands_concat_iff {steps : List Step} :
    Stands (steps ++ [s]) c i ↔
      s.handle?.map (·.channel) = some c ∧ (steps.filterMap Step.handle?).length = i ∨
        s.takes c = false ∧ Stands steps c i := by
  constructor
  · rintro ⟨before, s', after, h, heq, hs', hc, hi, hafter⟩
    cases after using List.reverseRecOn with
    | nil =>
      obtain ⟨rfl, hs⟩ := List.append_inj' heq rfl
      obtain rfl := (List.cons.inj hs).1
      exact .inl ⟨by simp [hs', hc], hi⟩
    | append_singleton after s'' =>
      rw [← List.cons_append, ← List.append_assoc] at heq
      obtain ⟨rfl, hs⟩ := List.append_inj' heq rfl
      obtain rfl := (List.cons.inj hs).1
      exact .inr ⟨hafter s (by simp), before, s', after, h, rfl, hs', hc, hi,
        fun t ht => hafter t (by simp [ht])⟩
  · rintro (⟨hs, hi⟩ | ⟨hs, before, s', after, h, rfl, hs', hc, hi, hafter⟩)
    · obtain ⟨h, hh, hc⟩ := Option.map_eq_some_iff.mp hs
      exact ⟨steps, s, [], h, rfl, hh, hc, hi, by simp⟩
    · refine ⟨before, s', after ++ [s], h, by simp, hs', hc, hi, fun t ht => ?_⟩
      rcases List.mem_append.mp ht with ht | ht
      · exact hafter t ht
      · rwa [List.mem_singleton.mp ht]

theorem current_run_iff (steps : List Step) (c : Channel) (i : Nat) :
    (({} : Ledger).run steps).current.get c = some i ↔ Stands steps c i := by
  induction steps using List.reverseRecOn generalizing i with
  | nil => simp [run, Stands]
  | append_singleton steps s ih =>
    rw [run_concat, current_step, stands_concat_iff, ← ih, length_handles_run]
    split
    · -- what is put in takes out what was there
      rename_i hs
      obtain ⟨h, hh, rfl⟩ := Option.map_eq_some_iff.mp hs
      simp [hs, Step.takes_of_handle? hh]
    · rename_i hs
      cases ht : s.takes c <;> simp [hs]

/-! ### Draining -/

theorem pairwise_entries (l : Ledger) : l.entries.Pairwise fun a b => a.1 < b.1 := by
  rw [entries_eq_filterMap, List.pairwise_filterMap]
  refine Channel.all_pairwise.imp ?_
  intro c d hcd p hp q hq
  obtain ⟨_, _, rfl⟩ := Option.map_eq_some_iff.mp hp
  obtain ⟨_, _, rfl⟩ := Option.map_eq_some_iff.mp hq
  exact hcd

theorem mergeSort_eq_entries {order : List (Channel × Nat × Handle)}
    (h : order.Perm l.entries) : order.mergeSort (fun a b => decide (a.1 ≤ b.1)) = l.entries := by
  rw [← Channel.sortOn_eq_mergeSort]
  exact Channel.sortOn_eq_of_perm h l.pairwise_entries

/-- **Handles are neither lost nor duplicated.** After any steps on an empty registry, the
handles on record are those that were put in, in order. Each of them was either given back once
or is on show, on the channel that it was put under; that is the one put in there last, if
nothing was taken out there since. A step gives back just what is on show on the channels it
takes from: to put in a handle gives back what it replaces, and to drain gives back everything,
in ascending order of the channels, however the entries are gone through, and leaves nothing. -/
theorem handles_are_neither_lost_nor_duplicated (steps : List Step) :
    let l := ({} : Ledger).run steps
    l.handles.map Handle.fresh = steps.filterMap Step.handle? ∧
    ((({} : Ledger).returned steps).map (·.1) ++ l.numbers).Perm
      (List.range (steps.filterMap Step.handle?).length) ∧
    (∀ c i, l.current.get c = some i ↔ Stands steps c i) ∧
    (∀ c i, l.current.get c = some i ↔ ∃ h, l.shown? c = some (i, h) ∧ h.channel = c) ∧
    (∀ s i h, (i, h) ∈ (l.step s).2.returned ↔
      s.takes h.channel = true ∧ l.shown? h.channel = some (i, h)) ∧
    (∀ c pid spec sink, let t := l.step (.set c pid spec sink)
      t.2 = .taken (l.shown? c) ∧ t.1.current.get c = some l.handles.length ∧
        ∀ d, d ≠ c → t.1.current.get d = l.current.get d) ∧
    ∃ drained, (l.step .drain).2 = .drained drained ∧ (l.step .drain).1.current = {} ∧
      drained.Pairwise (fun a b => a.1 < b.1) ∧
      (∀ c i h, (c, i, h) ∈ drained ↔ l.shown? c = some (i, h)) ∧
      (∀ p ∈ drained, p.2.2.channel = p.1) ∧
      ∀ order : List (Channel × Nat × Handle), order.Perm drained →
        order.mergeSort (fun a b => decide (a.1 ≤ b.1)) = drained := by
  intro l
  have hl : l.Lodged := lodged_empty.run steps
  refine ⟨fresh_handles_run {} steps, ?_, current_run_iff steps, fun c i => ?_,
    fun s i h => mem_returned_iff hl, fun c pid spec sink => ⟨rfl, ?_, fun d hd => ?_⟩,
    l.entries, rfl, rfl, l.pairwise_entries, fun c i h => mem_entries, fun p hp => ?_,
    fun order => mergeSort_eq_entries⟩
  · rw [List.range_eq_range']
    exact custody_run lodged_empty steps
  · constructor
    · intro hc
      obtain ⟨h, hi, hch⟩ := hl c i hc
      exact ⟨h, shown?_eq_some_iff.mpr ⟨hc, hi⟩, hch⟩
    · rintro ⟨h, hs, -⟩
      exact (shown?_eq_some_iff.mp hs).1
  · simp [current_step, Step.handle?]
  · simp [current_step, Step.handle?, Step.takes, hd.symm]
  · exact hl.channel_of_shown? (mem_entries.mp hp)

/-- The first handle is replaced, the second deleted, the third drained, and each is given back
once. -/
example :
    let spec : StreamSpec := { source := "tone" }
    let steps : List Step := [.set .video (some 1) spec "a", .set .video none spec "b",
      .cancelRemoved 0, .delete .video, .delete .video, .set .audio none spec "c",
      .setExit 1 .completed, .drain]
    (({} : Ledger).returned steps).map (fun p => (p.1, p.2.fired, p.2.sink)) =
      [(0, false, "a"), (1, false, "b"), (2, false, "c")] := by
  decide

end Ledger
end StreamSupervisor
