import StreamSupervisor.Proofs.Token.Ownership

/-! # When processes end

Between steps a process has ended just when its course and its token let it end. What is
recorded of it is that it was cancelled, unless its course was to end of itself.
-/

namespace StreamSupervisor

namespace Process

variable {p q : Process} {m : Move}

/-- Whether a process ends when things settle and no time passes. -/
def canEnd (p : Process) : Bool :=
  match p.course with
  | .untilTold => false
  | .untilCancelled => p.fired
  | .after delay _ => decide (delay = 0) || p.fired

/-- What is collected of a process that ends when no time passes. -/
def leaves (p : Process) : Collected :=
  match p.course with
  | .after 0 collected => collected
  | _ => .status .killed

theorem settle_zero (p : Process) :
    p.settle 0 = if p.isAlive && p.canEnd then p.finish p.leaves else p := by
  rcases p with ⟨channel, arguments, pid, course, fired, exit⟩
  cases exit with
  | some o => rfl
  | none =>
    cases course with
    | untilTold => rfl
    | untilCancelled => rfl
    | after delay collected => cases delay <;> cases fired <;> rfl

theorem settle_zero_cases (p : Process) :
    p.settle 0 = p ∨ p.isAlive = true ∧ p.canEnd = true ∧ p.settle 0 = p.finish p.leaves := by
  rw [settle_zero]
  split
  · have h := Bool.and_eq_true_iff.mp ‹_›
    exact .inr ⟨h.1, h.2, rfl⟩
  · exact .inl rfl

theorem settle_zero_course (p : Process) : (p.settle 0).course = p.course := by
  rcases p.settle_zero_cases with h | ⟨-, -, h⟩ <;> rw [h]
  rfl

theorem settle_zero_canEnd (p : Process) : (p.settle 0).canEnd = p.canEnd := by
  rcases p.settle_zero_cases with h | ⟨-, -, h⟩ <;> rw [h]
  rfl

theorem settle_zero_isAlive (h : p.canEnd = true) : (p.settle 0).isAlive = false := by
  rw [settle_zero, h, Bool.and_true]
  split
  · rfl
  · exact Bool.eq_false_iff.mpr ‹_›

/-- A process that has ended could end, and what was recorded is that it was cancelled, unless
it was to end of itself. -/
structure Sound (p : Process) : Prop where
  canEnd : p.isAlive = false → p.canEnd = true
  cancelled : ∀ o, p.exit = some o → o = .cancelled ∨ ∃ collected, p.course = .after 0 collected

theorem sound_of_isAlive (h : p.isAlive = true) : p.Sound where
  canEnd hp := by simp [h] at hp
  cancelled o ho := by simp [isAlive, ho] at h

theorem canEnd_fire (h : p.canEnd = true) : p.fire.canEnd = true := by
  unfold canEnd at h ⊢
  cases hc : p.course <;> simp_all [fire]

theorem Sound.fire (h : p.Sound) : p.fire.Sound :=
  ⟨fun hp => canEnd_fire (h.canEnd hp), h.cancelled⟩

theorem Sound.settle (h : p.Sound) : (p.settle 0).Sound := by
  rcases p.settle_zero_cases with hp | ⟨-, hc, hp⟩
  · rwa [hp]
  · rw [hp]
    refine ⟨fun _ => hc, fun o ho => ?_⟩
    obtain rfl : ExitOutcome.classify p.leaves p.fired = o := Option.some.inj ho
    -- what does not end of itself was killed, and only once its token had fired
    unfold Process.canEnd at hc
    unfold leaves
    cases hcourse : p.course with
    | untilTold => simp [hcourse] at hc
    | untilCancelled => simp_all [finish]
    | after delay collected => cases delay <;> simp_all [finish]

theorem exit_eq_of_course (hp : p.Sound) (hq : q.Sound) (ha : p.isAlive = q.isAlive)
    (hcp : ∀ collected, p.course ≠ .after 0 collected)
    (hcq : ∀ collected, q.course ≠ .after 0 collected) : p.exit = q.exit := by
  have hcancelled {p : Process} (hp : p.Sound) (hc : ∀ collected, p.course ≠ .after 0 collected)
      {o : ExitOutcome} (ho : p.exit = some o) : o = .cancelled :=
    (hp.cancelled o ho).resolve_right fun ⟨collected, h⟩ => hc collected h
  unfold isAlive at ha
  cases hep : p.exit with
  | none =>
    rw [hep] at ha
    exact (Option.isNone_iff_eq_none.mp ha.symm).symm
  | some o =>
    cases heq : q.exit with
    | none => simp [hep, heq] at ha
    | some o' => rw [hcancelled hp hcp hep, hcancelled hq hcq heq]

/-- What a move may make of a process. -/
inductive Change (m : Move) (p : Process) : Process → Prop
  | stays : Change m p p
  | fires : Change m p p.fire
  | told {i : Nat} {collected : Collected} : m = .tell i collected → p.isAlive = true →
      Change m p (p.tell collected)
  | settles : m = .settle → Change m p (p.settle 0)

theorem Change.sound (h : p.Change m q) (hp : p.Sound) : q.Sound := by
  cases h with
  | stays => exact hp
  | fires => exact hp.fire
  | told _ ha => exact sound_of_isAlive ha
  | settles => exact hp.settle

theorem Change.course (h : p.Change m q) (hm : ∀ i collected, m ≠ .tell i collected) :
    q.course = p.course := by
  cases h with
  | told ht => exact (hm _ _ ht).elim
  | settles => exact p.settle_zero_course
  | _ => rfl

theorem Change.exit (h : p.Change m q) (hm : m ≠ .settle) : q.exit = p.exit := by
  cases h with
  | settles hs => exact (hm hs).elim
  | _ => rfl

end Process

namespace Supervisor

variable {k : Supervisor Script} {ms : List Move} {i : Nat} {p q : Process}

theorem Withdrawn.change {cs : Channel → Bool} {k' : Supervisor Script} (h : Withdrawn cs k k')
    (m : Move) (hp : k.processes[i]? = some p) :
    ∃ q, k'.processes[i]? = some q ∧ p.Change m q := by
  refine ⟨_, by rw [h.processes, hp]; rfl, ?_⟩
  split
  · exact .fires
  · exact .stays

theorem change_move (m : Move) (hp : k.processes[i]? = some p) :
    ∃ q, (k.move m).1.processes[i]? = some q ∧ p.Change m q := by
  cases m with
  | issue n call =>
    cases call with
    | shutdown => exact ⟨p.fire, by simp [move, announce, fireAll, hp], .fires⟩
    | _ => exact ⟨p, hp, .stays⟩
  | serve n r =>
    simp only [move]
    have hserve := k.served_serve r
    generalize (k.serve r).state = k' at hserve ⊢
    cases hserve with
    | withdrawn hw => exact hw.change _ hp
    | failed hw => exact hw.change _ hp
    | launched hw =>
      obtain ⟨q, hq, h⟩ := hw.change (.serve n r) hp
      exact ⟨q, (List.getElem?_append_left (List.getElem?_eq_some_iff.mp hq).1).trans hq, h⟩
  | script launches => exact ⟨p, hp, .stays⟩
  | tell j collected =>
    simp only [move, tell]
    split
    · rename_i ha
      by_cases hj : j = i
      · have hp' : p.isAlive = true := by simpa [hj, hp] using ha
        exact ⟨p.tell collected, by simp [hj, hp], .told rfl hp'⟩
      · exact ⟨p, by simp [hj, hp], .stays⟩
    · exact ⟨p, hp, .stays⟩
  | guard call =>
    cases call with
    | cancel c =>
      simp only [move, guardStep]
      split
      · refine ⟨_, by rw [getElem?_fire, hp]; rfl, ?_⟩
        split
        · exact .fires
        · exact .stays
      · exact ⟨p, hp, .stays⟩
    | _ => exact ⟨p, hp, .stays⟩
  | settle => exact ⟨p.settle 0, by simp [move, settle, hp], .settles rfl⟩

theorem change_cases {m : Move} (hq : (k.move m).1.processes[i]? = some q) :
    (∃ p, k.processes[i]? = some p ∧ p.Change m q) ∨ k.processes.length ≤ i := by
  cases hp : k.processes[i]? with
  | none => exact .inr (List.getElem?_eq_none_iff.mp hp)
  | some p =>
    obtain ⟨q', hq', h⟩ := change_move m hp
    obtain rfl := Option.some.inj (hq'.symm.trans hq)
    exact .inl ⟨p, rfl, h⟩

def Sound (k : Supervisor Script) : Prop :=
  ∀ (i : Nat) (p : Process), k.processes[i]? = some p → p.Sound

theorem Sound.move (h : k.Sound) (m : Move) : (k.move m).1.Sound := by
  intro i q hq
  rcases change_cases hq with ⟨p, hp, hc⟩ | hi
  · exact hc.sound (h i p hp)
  · obtain ⟨-, -, -, he, -⟩ := process_of_move hi hq
    exact Process.sound_of_isAlive (by simp [Process.isAlive, he])

theorem Sound.after (h : k.Sound) (ms : List Move) : (k.after ms).Sound :=
  after_induction h fun m _ _ hk => hk.move m

theorem course_after (hms : ∀ i collected, .tell i collected ∉ ms) (hp : k.processes[i]? = some p) :
    ∃ q, (k.after ms).processes[i]? = some q ∧ q.course = p.course := by
  refine after_induction (P := fun k' => ∃ q, k'.processes[i]? = some q ∧ q.course = p.course)
    ⟨p, hp, rfl⟩ ?_
  rintro m hm k' ⟨q, hq, hc⟩
  obtain ⟨r, hr, h⟩ := change_move m hq
  exact ⟨r, hr, (h.course fun i collected ht => hms i collected (ht ▸ hm)).trans hc⟩

theorem exit_eq_none_after (hms : .settle ∉ ms) (hi : k.processes.length ≤ i)
    (hq : (k.after ms).processes[i]? = some q) : q.exit = none := by
  refine after_induction (P := fun k' => k.processes.length ≤ k'.processes.length ∧
    ∀ q, k'.processes[i]? = some q → q.exit = none) ⟨Nat.le_refl _, fun q hq => ?_⟩ ?_ |>.2 q hq
  · rw [List.getElem?_eq_none hi] at hq
    cases hq
  · rintro m hm k' ⟨hle, hk⟩
    refine ⟨Nat.le_trans hle (k'.length_processes_le_move m), fun q hq => ?_⟩
    rcases change_cases hq with ⟨p, hp, hc⟩ | hi
    · exact (hc.exit fun hs => hms (hs ▸ hm)).trans (hk p hp)
    · exact (process_of_move hi hq).2.2.2.1

theorem getElem?_settle (k : Supervisor Script) (i : Nat) :
    (k.move .settle).1.processes[i]? = k.processes[i]?.map (·.settle 0) := List.getElem?_map ..

/-- Every process that can end has ended. -/
def Settled (k : Supervisor Script) : Prop :=
  ∀ (i : Nat) (p : Process), k.processes[i]? = some p → p.canEnd = true → p.isAlive = false

theorem settled_move_settle (k : Supervisor Script) : (k.move .settle).1.Settled := by
  intro i q hq hc
  rw [getElem?_settle] at hq
  obtain ⟨p, -, rfl⟩ := Option.map_eq_some_iff.mp hq
  exact Process.settle_zero_isAlive (p.settle_zero_canEnd ▸ hc)

theorem Settled.move_settle (h : k.Settled) : k.move .settle = (k, []) := by
  have hsame : ∀ p ∈ k.processes, p.settle 0 = p := by
    intro p hp
    obtain ⟨i, hi⟩ := List.mem_iff_getElem?.mp hp
    rw [p.settle_zero, if_neg]
    intro hend
    obtain ⟨halive, hcan⟩ := Bool.and_eq_true_iff.mp hend
    simp [h i p hi hcan] at halive
  have hprocesses : k.processes.map (.settle 0) = k.processes :=
    (List.map_congr_left hsame).trans (List.map_id' _)
  have htrace : (k.settle 0).trace = [] := by
    refine List.filterMap_eq_nil_iff.mpr fun q hq => ?_
    have hq : q.1.settle 0 = q.1 := hsame q.1 (List.fst_mem_of_mem_zipIdx hq)
    cases ha : q.1.isAlive <;> simp_all [Process.ending?, Process.isAlive]
  rw [move, htrace, settle, hprocesses]

end Supervisor

namespace Session

theorem sound_run (g : Settings) (steps : List Step) :
    ((fresh g).run steps).supervisor.Sound :=
  run_supervisor _ _ ▸ Supervisor.Sound.after (fun _ _ hp => by simp [fresh] at hp) _

theorem settled_step (x : Session Script) (s : Step) : (x.step s).state.supervisor.Settled := by
  rw [step_supervisor, Supervisor.after_append]
  exact Supervisor.settled_move_settle _

theorem settled_run (g : Settings) (steps : List Step) :
    ((fresh g).run steps).supervisor.Settled := by
  rcases List.eq_nil_or_concat steps with rfl | ⟨before, s, rfl⟩
  · exact fun _ _ hp => by simp [run, fresh] at hp
  · rw [List.concat_eq_append, run_append]
    exact settled_step _ s

theorem isAlive_run {g : Settings} {steps : List Step} {p : Process}
    (hp : p ∈ ((fresh g).run steps).supervisor.processes) : p.isAlive = !p.canEnd := by
  obtain ⟨i, hi⟩ := List.mem_iff_getElem?.mp hp
  have hsound := (sound_run g steps i p hi).canEnd
  have hsettled := settled_run g steps i p hi
  cases ha : p.isAlive <;> cases hc : p.canEnd <;> simp_all

end Session
end StreamSupervisor
