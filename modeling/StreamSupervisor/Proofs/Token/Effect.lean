import Mathlib.Data.List.Forall2
import StreamSupervisor.Proofs.Session.Moves
import StreamSupervisor.Proofs.Supervisor.Service

/-! # What a move does

For every move: which tokens it fires, which entries it takes away, and which process it
adds. All that holds of the tokens in a session follows from these.
-/

namespace StreamSupervisor

namespace GuardCall

/-- A guard call that takes a handle out of the registry without firing its token. -/
def displaces : GuardCall → Bool
  | delete _ | drain | set .. => true
  | get _ | cancel _ | len => false

def reads : GuardCall → Bool
  | get _ | len => true
  | delete _ | cancel _ | drain | set .. => false

theorem displaces_of_reads {call : GuardCall} (h : call.reads = true) :
    call.displaces = false := by
  cases call <;> simp_all [reads, displaces]

end GuardCall

namespace Supervisor

variable {k : Supervisor Script} {m : Move} {c : Channel} {i : Nat} {p q : Process}

/-- A move fires the token of a process. -/
def Fires (k : Supervisor Script) : Move → Nat → Prop
  | .issue _ call, _ => call = .shutdown
  | .serve _ r, i => k.ownedIn (k.withdraws r) (.process i) = true
  | .guard (.cancel c), i => k.Shows c i
  | _, _ => False

/-- A move takes a channel's entry away. -/
def Clears (k : Supervisor Script) : Move → Channel → Prop
  | .serve _ r, c => k.withdraws r c = true
  | .guard (.delete d), c | .guard (.set d _ _), c => d = c
  | .guard .drain, _ => True
  | _, _ => False

theorem shutDown_move : (k.move m).1.shutDown = true ↔
    k.shutDown = true ∨ ∃ n, m = .issue n .shutdown := by
  cases m with
  | issue n call => cases call <;> simp [move, announce, fireAll]
  | serve n r => simp [move, serve_shutDown]
  | tell j collected =>
    simp only [move, tell]
    split <;> simp
  | guard call =>
    cases call with
    | cancel c =>
      simp only [move, guardStep]
      split <;> simp
    | _ => simp [move, guardStep, putGuest]
  | _ => simp [move, settle]

theorem settings_move (k : Supervisor Script) (m : Move) :
    (k.move m).1.settings = k.settings := by
  cases m with
  | issue n call => cases call <;> rfl
  | serve n r => exact k.serve_settings r
  | tell j collected =>
    simp only [move, tell]
    split <;> rfl
  | guard call =>
    cases call with
    | cancel c =>
      simp only [move, guardStep]
      split <;> simp
    | _ => rfl
  | _ => rfl

theorem settings_after (k : Supervisor Script) (ms : List Move) :
    (k.after ms).settings = k.settings :=
  after_induction (P := fun k' => k'.settings = k.settings) rfl
    fun m _ k' hk => (k'.settings_move m).trans hk

theorem mem_move_launched {record : LaunchRecord} (h : .launched record ∈ (k.move m).2) :
    ∃ n c s, m = .serve n (.start c s) ∧ k.launches (.start c s) = true ∧
      record = (k.vacate c).launchRecord c (arguments k.settings c s) record.failed := by
  cases m with
  | issue n call =>
    simp only [move] at h
    split at h <;> simp at h
  | serve n r =>
    rcases List.mem_append.mp h with h | h
    · rcases mem_serve_trace h with ⟨_, he⟩ | ⟨c, s, failed, rfl, hl, he⟩
      · cases he
      · obtain rfl := Happening.launched.inj he
        exact ⟨n, c, s, rfl, hl, rfl⟩
    · simp at h
  | settle => simp [move, settle] at h
  | _ => simp [move] at h

theorem Withdrawn.process {cs : Channel → Bool} {k' : Supervisor Script}
    (h : Withdrawn cs k k') (hp : k.processes[i]? = some p) :
    ∃ q, k'.processes[i]? = some q ∧ p.Evolves q ∧
      (q.fired = true ↔ p.fired = true ∨ k.ownedIn cs (.process i) = true) := by
  refine ⟨_, by rw [h.processes, hp]; rfl, ?_⟩
  split
  · exact ⟨p.evolves_fire, by simp [Process.fire, *]⟩
  · exact ⟨.refl p, by simp [*]⟩

theorem Withdrawn.process_of {cs : Channel → Bool} {k' : Supervisor Script}
    (h : Withdrawn cs k k') (hq : k'.processes[i]? = some q) :
    ∃ p, k.processes[i]? = some p ∧ p.Evolves q ∧
      (q.fired = true ↔ p.fired = true ∨ k.ownedIn cs (.process i) = true) := by
  cases hp : k.processes[i]? with
  | none => simp [h.processes, hp] at hq
  | some p =>
    obtain ⟨q', hq', h'⟩ := h.process hp
    obtain rfl := Option.some.inj (hq'.symm.trans hq)
    exact ⟨p, rfl, h'⟩

theorem process_move (m : Move) (hp : k.processes[i]? = some p) :
    ∃ q, (k.move m).1.processes[i]? = some q ∧ p.Evolves q ∧
      (q.fired = true ↔ p.fired = true ∨ k.Fires m i) := by
  have same (h : ¬ k.Fires m i) :
      p.Evolves p ∧ (p.fired = true ↔ p.fired = true ∨ k.Fires m i) :=
    ⟨.refl p, by simp [h]⟩
  cases m with
  | issue n call =>
    cases call with
    | shutdown => exact ⟨p.fire, by simp [move, announce, fireAll, hp], p.evolves_fire,
        by simp [Process.fire, Fires]⟩
    | _ => exact ⟨p, hp, same (by simp [Fires])⟩
  | serve n r =>
    simp only [move]
    have hserve := k.served_serve r
    generalize (k.serve r).state = k' at hserve ⊢
    cases hserve with
    | withdrawn hw => exact hw.process hp
    | failed hw => exact hw.process hp
    | launched hw =>
      obtain ⟨q, hq, h⟩ := hw.process hp
      exact ⟨q, (List.getElem?_append_left (List.getElem?_eq_some_iff.mp hq).1).trans hq, h⟩
  | script launches => exact ⟨p, hp, same id⟩
  | tell j collected =>
    simp only [move, tell]
    split
    · refine ⟨if j = i then p.tell collected else p, by simp [List.getElem?_modify, hp], ?_⟩
      split
      · exact ⟨p.evolves_tell collected, by simp [Process.tell, Fires]⟩
      · exact same id
    · exact ⟨p, hp, same id⟩
  | guard call =>
    cases call with
    | cancel c =>
      simp only [move, guardStep]
      cases he : k.registry.get c with
      | none => exact ⟨p, hp, same (by simp [Fires, Shows, owner?, he])⟩
      | some e =>
        have ho : k.Shows c i ↔ e.owner = .process i := by simp [Shows, owner?, he]
        refine ⟨if e.owner = .process i then p.fire else p, by simp [getElem?_fire, hp], ?_⟩
        split
        · exact ⟨p.evolves_fire, by simp [Process.fire, Fires, *]⟩
        · exact same (by simp [Fires, *])
    | _ => exact ⟨p, hp, same id⟩
  | settle =>
    exact ⟨p.settle 0, by simp [move, settle, hp], p.evolves_settle 0, by simp [Fires]⟩

theorem process_of_move (hi : k.processes.length ≤ i)
    (hq : (k.move m).1.processes[i]? = some q) :
    i = k.processes.length ∧ k.shutDown = false ∧ q.fired = false ∧ q.exit = none ∧
      (k.move m).1.Shows q.channel i ∧ ∃ n s, m = .serve n (.start q.channel s) := by
  have hlt := (List.getElem?_eq_some_iff.mp hq).1
  cases m with
  | issue n call => cases call <;> simp [move, announce, fireAll] at hlt <;> omega
  | serve n r =>
    simp only [move] at hlt hq ⊢
    have hserve := k.served_serve r
    generalize (k.serve r).state = k' at hserve hlt hq ⊢
    cases hserve with
    | withdrawn hw =>
      rw [hw.length_processes] at hlt
      omega
    | failed hw =>
      rw [hw.length_processes] at hlt
      omega
    | @launched k₁ c s child hw hr hl =>
      have hv := hw.length_processes
      have hk : k.shutDown = false := by
        cases h : k.shutDown <;> simp [hr, launches, h] at hl ⊢
      simp only [install, List.length_append, List.length_singleton, hv] at hlt hq
      obtain rfl : i = k.processes.length := by omega
      rw [List.getElem?_append_right (by omega), hv, Nat.sub_self, List.getElem?_singleton,
        if_pos rfl, Option.some.injEq] at hq
      subst hq
      refine ⟨rfl, hk, hw.shutDown.trans hk, rfl, ?_, n, s, by rw [hr]⟩
      simp [Shows, owner?, install, hv]
  | script launches => simp [move] at hlt; omega
  | tell j collected =>
    simp only [move, tell] at hlt
    split at hlt <;> simp at hlt <;> omega
  | guard call =>
    cases call with
    | cancel c =>
      simp only [move, guardStep] at hlt
      split at hlt <;> simp at hlt <;> omega
    | _ => simp [move, guardStep, putGuest] at hlt; omega
  | settle => simp [move, settle] at hlt; omega

theorem length_processes_le_move (k : Supervisor Script) (m : Move) :
    k.processes.length ≤ (k.move m).1.processes.length := by
  by_contra hlt
  obtain ⟨q, hq, -⟩ := process_move m (List.getElem?_eq_getElem (Nat.lt_of_not_le hlt))
  simp at hq

theorem evolves_move (h : k.shutDown = true ∨ ∀ n c s, m ≠ .serve n (.start c s)) :
    List.Forall₂ Process.Evolves k.processes (k.move m).1.processes := by
  have hle : (k.move m).1.processes.length ≤ k.processes.length := by
    by_contra hlt
    have hq := List.getElem?_eq_getElem (Nat.lt_of_not_le hlt)
    obtain ⟨-, hk, -, -, -, n, s, hm⟩ := process_of_move (Nat.le_refl _) hq
    rcases h with h | h
    · simp [h] at hk
    · exact h _ _ _ hm
  refine List.forall₂_iff_get.mpr ⟨Nat.le_antisymm (k.length_processes_le_move m) hle,
    fun i hi hi' => ?_⟩
  obtain ⟨q, hq, he, -⟩ := process_move m (List.getElem?_eq_getElem hi)
  obtain rfl := Option.some.inj ((List.getElem?_eq_getElem hi').symm.trans hq)
  exact he

theorem get_move (h : ¬ k.Clears m c) : (k.move m).1.registry.get c = k.registry.get c := by
  cases m with
  | issue n call => cases call <;> rfl
  | serve n r =>
    simp only [move]
    have hc : k.withdraws r c = false := by simpa [Clears] using h
    have hserve := k.served_serve r
    generalize (k.serve r).state = k' at hserve ⊢
    cases hserve with
    | withdrawn hw => simp [hw.registry, hc]
    | failed hw => simp [hw.registry, hc]
    | @launched _ d _ _ hw hr hl =>
      subst hr
      have hd : d ≠ c := by simpa [withdraws_of_launches hl, eq_comm] using hc
      simp [install, Slots.get_set, hw.registry, hc, hd]
  | tell j collected =>
    simp only [move, tell]
    split <;> rfl
  | guard call =>
    cases call with
    | delete d => simp_all [Clears, move, guardStep, Slots.get_erase]
    | drain => simp [Clears] at h
    | set d s sink => simp_all [Clears, move, guardStep, putGuest, Slots.get_set]
    | cancel d =>
      simp only [move, guardStep]
      split <;> simp
    | _ => rfl
  | _ => rfl

theorem owner?_move (h : ¬ k.Clears m c) : (k.move m).1.owner? c = k.owner? c := by
  rw [owner?, owner?, get_move h]

theorem owner?_move_of_clears (h : k.Clears m c) :
    (k.move m).1.owner? c = none ∨ (∃ j, (k.move m).1.owner? c = some (.guest j)) ∨
      (k.move m).1.owner? c = some (.process k.processes.length) ∧
        ∃ q, (k.move m).1.processes[k.processes.length]? = some q ∧ q.channel = c := by
  cases m with
  | serve n r =>
    simp only [move]
    have hc : k.withdraws r c = true := h
    have hserve := k.served_serve r
    generalize (k.serve r).state = k' at hserve ⊢
    cases hserve with
    | withdrawn hw => exact .inl (by simp [owner?, hw.registry, hc])
    | failed hw => exact .inl (by simp [owner?, hw.registry, hc])
    | @launched _ d _ _ hw hr hl =>
      subst hr
      obtain rfl : c = d := by simpa [withdraws_of_launches hl] using hc
      have hv := hw.length_processes
      exact .inr (.inr ⟨by simp [owner?, install, hv], by simp [install, ← hv]⟩)
  | guard call =>
    cases call with
    | set d s sink =>
      obtain rfl : d = c := h
      exact .inr (.inl ⟨_, by simp [move, guardStep, putGuest, owner?]; rfl⟩)
    | delete d =>
      obtain rfl : d = c := h
      exact .inl (by simp [move, guardStep, owner?])
    | drain => exact .inl (by simp [move, guardStep, owner?])
    | _ => exact h.elim
  | _ => exact h.elim

end Supervisor
end StreamSupervisor
