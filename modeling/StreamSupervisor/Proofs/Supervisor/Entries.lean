import StreamSupervisor.Proofs.Shutdown.Finality

/-! # What stands behind an entry

Behind each entry of the registry there is a token. An entry that a start has put in tells
what its process was launched with; any other entry is a guest's, and tells of no process.
-/

namespace StreamSupervisor

/-- An entry on a channel tells what a process was launched with. -/
structure Entry.Describes (g : Settings) (c : Channel) (e : Entry) (p : Process) : Prop where
  channel : p.channel = c
  pid : p.pid = e.pid
  arguments : p.arguments = arguments g c e.spec
  sink : e.sink = outputSink g c e.spec

theorem Entry.Describes.evolves {g : Settings} {c : Channel} {e : Entry} {p q : Process}
    (h : e.Describes g c p) (hq : p.Evolves q) : e.Describes g c q where
  channel := hq.channel.trans h.channel
  pid := hq.pid.trans h.pid
  arguments := hq.arguments.trans h.arguments
  sink := h.sink

namespace Supervisor

section Tokens

variable {ℓ : Type} {k k' : Supervisor ℓ}

def fired? (k : Supervisor ℓ) : Owner → Option Bool
  | .process i => k.processes[i]?.map (·.fired)
  | .guest j => k.guests[j]?

theorem Withdrawn.fired? {cs : Channel → Bool} (h : Withdrawn cs k k') (o : Owner) :
    k'.fired? o = (k.fired? o).map fun b => b || k.ownedIn cs o := by
  cases o with
  | process i =>
    simp only [Supervisor.fired?, h.processes, Option.map_map]
    congr 1
    funext p
    cases k.ownedIn cs (.process i) <;> simp [Process.fire]
  | guest j => exact h.guests j

end Tokens

variable {k : Supervisor Script} {m : Move} {ms : List Move} {n j : Nat} {c : Channel}
  {s : StreamSpec} {e : Entry}

/-- What stands behind an entry: the process that it describes, or a guest. -/
inductive Grounds (k : Supervisor Script) (c : Channel) (e : Entry) : Prop where
  | process {i : Nat} {p : Process} : e.owner = .process i → k.processes[i]? = some p →
      e.Describes k.settings c p → Grounds k c e
  | guest {j : Nat} : e.owner = .guest j → e.pid = none → j < k.guests.length → Grounds k c e

def Grounded (k : Supervisor Script) : Prop :=
  ∀ c e, k.registry.get c = some e → k.Grounds c e

theorem guest_move (m : Move) (h : j < k.guests.length) : j < (k.move m).1.guests.length := by
  have iff (l : List Bool) : j < l.length ↔ l[j]?.isSome = true := by simp
  rw [iff] at h ⊢
  have fires {b : Option Bool} {f : Bool → Bool} (hb : b = k.guests[j]?.map f) :
      b.isSome = true := by
    rw [hb, Option.isSome_map, h]
  cases m with
  | issue n call => cases call <;> exact h
  | serve n r =>
    simp only [move]
    have hserve := k.served_serve r
    generalize (k.serve r).state = k' at hserve ⊢
    cases hserve with
    | withdrawn hw => exact fires (hw.guests j)
    | failed hw => exact fires (hw.guests j)
    | launched hw => exact fires (hw.guests j)
  | tell i collected =>
    simp only [move, tell]
    split <;> exact h
  | guard call =>
    cases call with
    | cancel c =>
      simp only [move, guardStep]
      split
      · exact fires (k.getElem?_guests_fire _ j)
      · exact h
    | set c s sink =>
      rw [← iff] at h ⊢
      exact List.length_append ▸ Nat.lt_add_right _ h
    | _ => exact h
  | _ => exact h

theorem entry_of_start (hl : k.launches (.start c s) = true)
    (he : (k.move (.serve n (.start c s))).1.registry.get c = some e) :
    e.spec = s ∧ e.owner = .process k.processes.length ∧
      ∃ p, (k.move (.serve n (.start c s))).1.processes[k.processes.length]? = some p ∧
        e.Describes k.settings c p := by
  simp only [move] at he ⊢
  have hserve := k.served_serve (.start c s)
  generalize (k.serve (.start c s)).state = k' at hserve he ⊢
  have hc : k.withdraws (.start c s) c = true := by simp [withdraws_of_launches hl]
  cases hserve with
  | withdrawn _ hn => simp [hn] at hl
  | failed hw => simp [hw.registry, hc] at he
  | launched hw hr =>
    obtain ⟨rfl, rfl⟩ := Request.start.inj hr
    have hlen := hw.length_processes
    simp only [install, Slots.get_set_self, Option.some.injEq] at he
    subst he
    refine ⟨rfl, by rw [← hlen], _, by rw [← hlen]; exact List.getElem?_concat_length, ?_⟩
    exact ⟨rfl, rfl, by simp [hw.settings], by simp [hw.settings]⟩

theorem Grounds.move (h : k.Grounds c e) (m : Move) : (k.move m).1.Grounds c e := by
  cases h with
  | process ho hp hd =>
    obtain ⟨q, hq, he, -⟩ := process_move m hp
    exact .process ho hq (k.settings_move m ▸ hd.evolves he)
  | guest ho hpid hj => exact .guest ho hpid (guest_move m hj)

theorem Grounded.move (h : k.Grounded) (m : Move) : (k.move m).1.Grounded := by
  intro c e he
  rcases entry_of_move he with hk | ⟨s, sink, rfl, rfl⟩ | ⟨n, s, rfl, hl⟩
  · exact (h c e hk).move m
  · exact .guest rfl rfl (by simp [Supervisor.move, guardStep, putGuest])
  · obtain ⟨-, ho, p, hp, hd⟩ := entry_of_start hl he
    exact .process ho hp (k.settings_move _ ▸ hd)

theorem Grounded.after (h : k.Grounded) (ms : List Move) : (k.after ms).Grounded :=
  after_induction h fun m _ _ hk => hk.move m

theorem Grounds.fired? (h : k.Grounds c e) : ∃ b, k.fired? e.owner = some b := by
  cases h with
  | process ho hp => exact ⟨_, by simp [Supervisor.fired?, ho, hp]; rfl⟩
  | guest ho _ hj => exact ⟨_, by simp [Supervisor.fired?, ho, hj]; rfl⟩

end Supervisor

theorem Session.grounded_fresh (g : Settings) : (fresh g).supervisor.Grounded :=
  fun c e he => by simp [fresh] at he

end StreamSupervisor
