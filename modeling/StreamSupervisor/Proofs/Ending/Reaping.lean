import StreamSupervisor.Proofs.Ending.Batch
import StreamSupervisor.Proofs.Shutdown.Return
import StreamSupervisor.Proofs.Supervisor.Entries

/-! # Reaping

A process ends when things settle, and in the same move its exit is recorded and one event
tells of it. So at any time the events that told of a process are as many as the exits that
are on record for it, none or one, and say the same.
-/

namespace StreamSupervisor

/-- The event that tells of the end of one process. -/
def Happening.reapedOf? (i : Nat) : Happening → Option Event
  | reaped j e => if j = i then some e else none
  | _ => none

theorem Happening.reapedOf?_eq_some_iff {i : Nat} {h : Happening} {e : Event} :
    h.reapedOf? i = some e ↔ h = .reaped i e := by
  cases h <;> simp [reapedOf?, eq_comm]

theorem Happening.filterMap_reapedOf?_eq_nil {i : Nat} {trace : List Happening}
    (h : ∀ e, .reaped i e ∉ trace) : trace.filterMap (reapedOf? i) = [] := by
  refine List.filterMap_eq_nil_iff.mpr fun a ha => ?_
  refine Option.eq_none_iff_forall_ne_some.mpr fun e he => h e ?_
  rwa [← reapedOf?_eq_some_iff.mp he]

namespace Process

variable {p q : Process} {m : Move}

theorem Change.evolves (h : p.Change m q) : p.Evolves q := by
  cases h with
  | stays => exact .refl p
  | fires => exact p.evolves_fire
  | told => exact p.evolves_tell _
  | settles => exact p.evolves_settle 0

def ended? (p : Process) : Option Event := p.exit.map (.ended p.channel p.pid)

theorem ended?_of_evolves (h : p.Evolves q) (he : q.exit = p.exit) : q.ended? = p.ended? := by
  rw [ended?, ended?, he, h.channel, h.pid]

theorem ended?_settle (p : Process) :
    p.ended?.toList ++ (p.ending? 0).toList = (p.settle 0).ended?.toList := by
  have hp := p.evolves_settle 0
  cases he : p.exit with
  | none => simp [ended?, ending?, isAlive, he, hp.channel, hp.pid]
  | some o => simp [ended?, ending?, isAlive, he, hp.exit o he, hp.channel, hp.pid]

end Process

namespace Supervisor

variable {k : Supervisor Script} {m : Move} {ms : List Move} {i : Nat} {e : Event}

def ended? (k : Supervisor Script) (i : Nat) : Option Event := k.processes[i]?.bind (·.ended?)

theorem filterMap_reapedOf?_zipIdx (f : Process → Option Event) (ps : List Process) (n i : Nat) :
    ((ps.zipIdx n).filterMap fun p => (f p.1).map (.reaped p.2)).filterMap
        (Happening.reapedOf? i) =
      if n ≤ i then (ps[i - n]?.bind f).toList else [] := by
  induction ps generalizing n with
  | nil => simp
  | cons p rest ih =>
    have hcons : (((p :: rest).zipIdx n).filterMap fun p => (f p.1).map (.reaped p.2)).filterMap
        (Happening.reapedOf? i) = (if n = i then (f p).toList else []) ++
          ((rest.zipIdx (n + 1)).filterMap fun p => (f p.1).map (.reaped p.2)).filterMap
            (Happening.reapedOf? i) := by
      cases hf : f p with
      | none => simp [List.zipIdx_cons, hf]
      | some e => by_cases hn : n = i <;> simp [List.zipIdx_cons, hf, hn, Happening.reapedOf?]
    rw [hcons, ih]
    rcases Nat.lt_trichotomy n i with hn | rfl | hn
    · have hi : i - n = i - (n + 1) + 1 := by omega
      simp [Nat.ne_of_lt hn, Nat.succ_le_of_lt hn, Nat.le_of_lt hn, hi]
    · rw [if_pos rfl, if_neg (Nat.not_succ_le_self n), if_pos (Nat.le_refl n)]
      simp
    · have hi : ¬ n + 1 ≤ i := by omega
      simp [Nat.ne_of_gt hn, Nat.not_le.mpr hn, hi]

theorem reaped_not_mem_move (hm : m ≠ .settle) : .reaped i e ∉ (k.move m).2 := by
  cases m with
  | settle => exact (hm rfl).elim
  | issue n call =>
    simp only [move]
    split <;> simp
  | serve n r =>
    intro h
    rcases List.mem_append.mp h with h | h
    · rcases mem_serve_trace h with ⟨_, he⟩ | ⟨_, _, _, _, _, he⟩ <;> cases he
    · simp at h
  | _ => simp [move]

theorem filterMap_reapedOf?_settle (k : Supervisor Script) (i : Nat) :
    (k.move .settle).2.filterMap (Happening.reapedOf? i) =
      (k.processes[i]?.bind (·.ending? 0)).toList := by
  simp [move, settle, filterMap_reapedOf?_zipIdx]

theorem ended?_move (k : Supervisor Script) (m : Move) (i : Nat) :
    (k.ended? i).toList ++ (k.move m).2.filterMap (Happening.reapedOf? i) =
      ((k.move m).1.ended? i).toList := by
  by_cases hm : m = .settle
  · subst hm
    rw [filterMap_reapedOf?_settle]
    rw [ended?, ended?, getElem?_settle]
    cases k.processes[i]? with
    | none => rfl
    | some p => exact p.ended?_settle
  · -- any other move tells of no end, and what it adds has not ended
    rw [Happening.filterMap_reapedOf?_eq_nil fun e => reaped_not_mem_move hm, List.append_nil]
    congr 1
    cases hp : k.processes[i]? with
    | some p =>
      obtain ⟨q, hq, hc⟩ := change_move m hp
      simp [ended?, hp, hq, Process.ended?_of_evolves hc.evolves (hc.exit hm)]
    | none =>
      cases hq : (k.move m).1.processes[i]? with
      | none => simp [ended?, hp, hq]
      | some q =>
        obtain ⟨-, -, -, he, -⟩ := process_of_move (List.getElem?_eq_none_iff.mp hp) hq
        simp [ended?, hp, hq, Process.ended?, he]

theorem ended?_after (k : Supervisor Script) (ms : List Move) (i : Nat) :
    (k.ended? i).toList ++ (k.trace ms).filterMap (Happening.reapedOf? i) =
      ((k.after ms).ended? i).toList := by
  induction ms generalizing k with
  | nil => simp
  | cons m ms ih =>
    rw [trace_cons, List.filterMap_append, ← List.append_assoc, ended?_move, ih, after_cons]

theorem pending_add_recorded (k : Supervisor Script) :
    k.pending + k.processes.countP (·.exit.isSome) = k.processes.length := by
  have hrecorded (p : Process) : p.exit.isSome = !p.isAlive := by
    cases he : p.exit <;> simp [Process.isAlive, he]
  simp [pending, hrecorded, List.length_eq_countP_add_countP (·.isAlive) (l := k.processes)]

theorem status?_of_shows {c : Channel} (hk : k.Grounded) (h : k.Shows c i) :
    ∃ e p s, k.registry.get c = some e ∧ k.processes[i]? = some p ∧
      e.Describes k.settings c p ∧ k.status? c = some s ∧ s.pid = p.pid ∧ s.exit = p.exit ∧
      (s.isStale = true ↔ ∃ o, p.exit = some o) := by
  obtain ⟨e, he, ho⟩ := shows_iff.mp h
  cases hk c e he with
  | guest hg => cases hg.symm.trans ho
  | @process j p hj hp hd =>
    obtain rfl : j = i := by simpa using hj.symm.trans ho
    have hexit : (k.statusOf c e).exit = p.exit := by simp [statusOf, exit?, ho, hp]
    refine ⟨e, p, k.statusOf c e, he, hp, hd, by simp [status?, he], hd.pid.symm, hexit, ?_⟩
    rw [StreamStatus.isStale, hexit, Option.isSome_iff_exists]

end Supervisor

/-- What the event of a process that has ended says of its outcome, and how loud. -/
structure Event.Tells (e : Event) (p : Process) (o : ExitOutcome) : Prop where
  eq : e = .ended p.channel p.pid o
  level : e.level = if o.isExpected then .info else .error
  outcome : o.isExpected = false → ∀ digits, ("outcome", .text o.text) ∈ e.fields digits

theorem Process.tells_of_ended? {p : Process} {e : Event} (h : p.ended? = some e) :
    ∃ o, p.exit = some o ∧ e.Tells p o := by
  obtain ⟨o, ho, rfl⟩ := Option.map_eq_some_iff.mp h
  exact ⟨o, ho, rfl, rfl, fun he digits => by simp [Event.fields, he]⟩

namespace Session

open Supervisor

variable {x : Session Script} {s : Step} {i : Nat} {p q : Process}

theorem ended?_step (x : Session Script) (s : Step) (i : Nat) :
    (x.supervisor.ended? i).toList ++ (x.step s).trace.filterMap (Happening.reapedOf? i) =
      ((x.step s).state.supervisor.ended? i).toList := by
  have ht : x.trace [s] = (x.step s).trace := by simp [trace, turns]
  rw [← ht, x.filterMap_trace fun _ _ => rfl, ended?_after, ← run_supervisor]
  rfl

theorem ended?_run (g : Settings) (steps : List Step) (i : Nat) :
    ((fresh g).trace steps).filterMap (Happening.reapedOf? i) =
      (((fresh g).run steps).supervisor.ended? i).toList := by
  rw [(fresh g).filterMap_trace fun _ _ => rfl, run_supervisor, ← ended?_after]
  rfl

theorem exit_step (hp : x.supervisor.processes[i]? = some p)
    (hq : (x.step s).state.supervisor.processes[i]? = some q) :
    q.exit = p.exit ∨ p.exit = none ∧ ∃ o, q.exit = some o ∧
      (x.step s).trace.filterMap (Happening.reapedOf? i) = [.ended q.channel q.pid o] := by
  have hrun : (x.run [s]).supervisor.processes[i]? = some q := hq
  cases hpe : p.exit with
  | some o => exact .inl (exit_run hp hpe hrun)
  | none =>
    cases hqe : q.exit with
    | none => exact .inl rfl
    | some o =>
      have h := x.ended?_step s i
      simp only [ended?, hp, hq, Option.bind_some, Process.ended?, hpe, hqe] at h
      exact .inr ⟨rfl, o, rfl, h⟩

/-- **Every process is reaped once.** At any time the processes are those of the launches that
succeeded, and those that are waited for are those with no exit on record. An exit is on record
once the process can end, came there in the step whose one event tells of it, and stays. An
entry shows the exit of its own process, and is stale just if that has ended. In all there is
one event for each process that has ended, and no other; it names the channel and the
identifier of the process, and says how it ended if that was not to be expected. -/
theorem each_process_is_reaped_once (g : Settings) (steps : List Step) :
    let x := (fresh g).run steps
    let k := x.supervisor
    let trace := (fresh g).trace steps
    k.processes.map Process.launch = trace.filterMap Happening.success? ∧
    (∃ n, k.check .pendingReapers = .answered (.count n) ∧
      n + k.processes.countP (·.exit.isSome) = (trace.filterMap Happening.success?).length) ∧
    (∀ p ∈ k.processes, (∃ o, p.exit = some o) ↔ p.canEnd = true) ∧
    (∀ (s : Step) (i : Nat) (p q : Process), k.processes[i]? = some p →
      (x.step s).state.supervisor.processes[i]? = some q →
      q.exit = p.exit ∨ p.exit = none ∧ ∃ o, q.exit = some o ∧
        (x.step s).trace.filterMap (Happening.reapedOf? i) = [.ended q.channel q.pid o]) ∧
    (∀ (later : List Step) (i : Nat) (p : Process) (o : ExitOutcome),
      k.processes[i]? = some p → p.exit = some o →
      ∃ q : Process, (x.run later).supervisor.processes[i]? = some q ∧ q.exit = some o) ∧
    (∀ (c : Channel) (i : Nat), k.Shows c i →
      ∃ e p s, k.registry.get c = some e ∧ k.processes[i]? = some p ∧
      e.Describes k.settings c p ∧ k.status? c = some s ∧ s.pid = p.pid ∧ s.exit = p.exit ∧
      (s.isStale = true ↔ ∃ o, p.exit = some o)) ∧
    (∀ i, trace.filterMap (Happening.reapedOf? i) = (k.ended? i).toList) ∧
    ∀ (i : Nat) (e : Event), .reaped i e ∈ trace →
      ∃ p o, k.processes[i]? = some p ∧ p.exit = some o ∧ e.Tells p o := by
  intro x k trace
  have hk : k.Grounded := by
    simp only [k, x, run_supervisor]
    exact (grounded_fresh g).after _
  refine ⟨map_launch_run g steps, ⟨k.pending, rfl, ?_⟩, fun p hp => ?_, fun s i p q => exit_step,
    fun later i p o hp ho => ?_, fun c i => status?_of_shows hk, ended?_run g steps,
    fun i e he => ?_⟩
  · rw [← map_launch_run, List.length_map, pending_add_recorded]
  · have halive := isAlive_run hp
    rw [← Option.isSome_iff_exists, ← Bool.not_not p.canEnd, ← halive]
    cases he : p.exit <;> simp [Process.isAlive, he]
  · obtain ⟨q, hq, hpq⟩ := evolves_after (x.moves later) hp
    rw [run_supervisor]
    exact ⟨q, hq, hpq.exit o ho⟩
  · have hmem : e ∈ trace.filterMap (Happening.reapedOf? i) :=
      List.mem_filterMap.mpr ⟨_, he, Happening.reapedOf?_eq_some_iff.mpr rfl⟩
    rw [ended?_run, Option.mem_toList] at hmem
    obtain ⟨p, hp, hpe⟩ := Option.bind_eq_some_iff.mp hmem
    obtain ⟨o, ho, htells⟩ := Process.tells_of_ended? hpe
    exact ⟨p, o, hp, ho, htells⟩

/-- A process that ends late, when its channel shows another one, leaves that one alone. -/
example :
    let start : Step := .call (.start "audio" { source := "tone", restart := true })
    let steps : List Step :=
      [.script [.succeed .numbered .untilTold], start, start, .exit 0 (.status (.exited 3))]
    let k := ((fresh {}).run steps).supervisor
    k.processes.map (·.exit) = [some .cancelled, none] ∧ k.isRunning .audio = true ∧
      ((fresh {}).trace steps).filterMap (Happening.reapedOf? 0) =
        [.ended .audio (some 1000) .cancelled] := by
  decide

end Session
end StreamSupervisor
