import StreamSupervisor.Proofs.Ending.Course
import StreamSupervisor.Proofs.Ending.Independence
import StreamSupervisor.Proofs.Lock.Progress

/-! # Calls at once and one by one

Calls come to the same whether they are issued as one batch or one by one, although in
between the latter processes may end. Only what is recorded of a process that ends of itself
may differ, since within the batch its token may fire before it has ended.
-/

namespace StreamSupervisor

namespace Line

variable {l : Line} {m : Move} {calls : List Call}

theorem mem_callMoves (h : m ∈ l.callMoves calls) :
    (∃ n call, m = .issue n call) ∨ ∃ n r, m = .serve n r := by
  obtain ⟨p, -, hp⟩ := List.mem_flatMap.mp h
  rcases List.mem_cons.mp hp with rfl | hp
  · exact .inl ⟨_, _, rfl⟩
  · split at hp
    · cases hp
    · obtain ⟨r, -, rfl⟩ := Option.map_eq_some_iff.mp (Option.mem_toList.mp hp)
      exact .inr ⟨_, _, rfl⟩

theorem filterMap_outline_callMoves (l : Line) (calls : List Call) (seen : Bool) :
    (l.callMoves calls).filterMap (Move.outline? seen) = l.callMoves calls := by
  refine (List.filterMap_congr fun m hm => ?_).trans List.filterMap_some
  rcases mem_callMoves hm with ⟨_, _, rfl⟩ | ⟨_, _, rfl⟩ <;> rfl

theorem settle_not_mem_moves (l : Line) (s : Step) : .settle ∉ l.moves s := by
  have hcalls (calls : List Call) : .settle ∉ l.callMoves calls := fun h => by
    rcases mem_callMoves h with ⟨_, _, h⟩ | ⟨_, _, h⟩ <;> cases h
  cases s with
  | guard call =>
    simp only [moves]
    split <;> simp
  | call call => exact hcalls [call]
  | batch calls => exact hcalls calls
  | _ => simp [moves, callMoves, Step.calls]

theorem exit_of_tell_mem_moves {s : Step} {i : Nat} {collected : Collected}
    (h : .tell i collected ∈ l.moves s) : s = .exit i collected := by
  have hcalls (calls : List Call) : .tell i collected ∉ l.callMoves calls := fun h => by
    rcases mem_callMoves h with ⟨_, _, h⟩ | ⟨_, _, h⟩ <;> cases h
  cases s with
  | guard call =>
    simp only [moves] at h
    split at h <;> simp at h
  | call call => exact (hcalls [call] h).elim
  | batch calls => exact (hcalls calls h).elim
  | exit j collected' =>
    obtain ⟨rfl, rfl⟩ := Move.tell.inj (List.mem_singleton.mp h)
    rfl
  | _ => simp [moves, callMoves, Step.calls] at h

end Line

namespace Session

variable {x : Session Script} {before : List Call} {s : Step} {steps steps' : List Step} {i : Nat}
  {p q : Process} {o : ExitOutcome} {collected : Collected}

def TellNone (steps : List Step) : Prop := ∀ i collected, .exit i collected ∉ steps

theorem tellNone_batch (calls : List Call) : TellNone [.batch calls] := by
  simp [TellNone]

theorem tellNone_calls (calls : List Call) : TellNone (calls.map .call) := by
  simp [TellNone]

theorem TellNone.tell_not_mem_moves (h : TellNone steps) (x : Session Script) (i : Nat)
    (collected : Collected) : .tell i collected ∉ x.moves steps := by
  induction steps generalizing x with
  | nil => exact List.not_mem_nil
  | cons s rest ih =>
    have hrest : TellNone rest := fun j collected hm => h j collected (List.mem_cons_of_mem _ hm)
    rw [moves, List.mem_append, List.mem_cons, actMoves_eq]
    rintro (hm | hm | hm)
    · exact h i collected (Line.exit_of_tell_mem_moves hm ▸ List.mem_cons_self)
    · cases hm
    · exact ih hrest _ hm

theorem Numbered.outlineTrace_moves (h : x.Numbered before) (steps : List Step) :
    outlineTrace (before ++ steps.flatMap Step.calls) (x.trace steps) =
      outlineTrace (before ++ steps.flatMap Step.calls) (x.supervisor.trace (x.moves steps)) := by
  induction steps generalizing x before with
  | nil => rfl
  | cons s rest ih =>
    have hrest := ih (h.step s)
    rw [step_supervisor] at hrest
    rw [List.flatMap_cons, ← List.append_assoc, trace_cons, outlineTrace_append,
      h.outlineTrace_step, hrest, ← outlineTrace_append, ← Supervisor.trace_append,
      Session.moves, ← List.append_cons]

theorem TellNone.course_run (h : TellNone steps) (hp : x.supervisor.processes[i]? = some p)
    (hq : (x.run steps).supervisor.processes[i]? = some q) : q.course = p.course := by
  rw [run_supervisor] at hq
  obtain ⟨q', hq', hc⟩ := Supervisor.course_after (h.tell_not_mem_moves x) hp
  obtain rfl := Option.some.inj (hq'.symm.trans hq)
  exact hc

theorem exit_run (hp : x.supervisor.processes[i]? = some p) (ho : p.exit = some o)
    (hq : (x.run steps).supervisor.processes[i]? = some q) : q.exit = some o := by
  rw [run_supervisor] at hq
  obtain ⟨q', hq', he⟩ := Supervisor.evolves_after (x.moves steps) hp
  obtain rfl := Option.some.inj (hq'.symm.trans hq)
  exact he.exit o ho

/-- Two ways for a session to go on that make the same moves, apart from processes that end by
themselves, lead to the same supervisor and show the same, the ends of processes left out. -/
theorem Numbered.outline_eq_of_moves (h : x.Numbered before)
    (hs : TellNone steps) (hs' : TellNone steps')
    (hcalls : steps.flatMap Step.calls = steps'.flatMap Step.calls)
    (hms : (x.moves steps).filterMap (Move.outline? true) =
      (x.moves steps').filterMap (Move.outline? true)) :
    (x.run steps).supervisor.outline true = (x.run steps').supervisor.outline true ∧
      outlineTrace (before ++ steps.flatMap Step.calls) (x.trace steps) =
        outlineTrace (before ++ steps.flatMap Step.calls) (x.trace steps') := by
  constructor
  · rw [run_supervisor, run_supervisor,
      Supervisor.outline_after true _ fun _ => hs.tell_not_mem_moves x,
      Supervisor.outline_after true _ fun _ => hs'.tell_not_mem_moves x, hms]
  · rw [h.outlineTrace_moves,
      Supervisor.outline_trace true _ (fun _ => hs.tell_not_mem_moves x) (h.moves steps), hms,
      hcalls,
      ← Supervisor.outline_trace true _ (fun _ => hs'.tell_not_mem_moves x) (h.moves steps'),
      ← h.outlineTrace_moves]

/-! ### Calls one by one -/

theorem run_calls_line (x : Session Script) (calls : List Call) :
    (x.run (calls.map .call)).line = x.line.issueAll calls := by
  rw [run_line]
  induction calls generalizing x with
  | nil => exact x.line.issueAll_nil.symm
  | cons call rest ih =>
    have hrest := ih (x.step (.call call)).state
    rw [step_line] at hrest
    rw [← List.singleton_append, Line.issueAll_append]
    exact hrest

theorem filterMap_outline_moves_calls (x : Session Script) (calls : List Call) :
    (x.moves (calls.map .call)).filterMap (Move.outline? true) = x.line.callMoves calls := by
  induction calls generalizing x with
  | nil => rfl
  | cons call rest ih =>
    rw [List.map_cons, moves, List.filterMap_append, List.filterMap_cons_none rfl, ih, step_line,
      actMoves_eq, ← List.singleton_append, Line.callMoves_append]
    exact congrArg (· ++ _) (x.line.filterMap_outline_callMoves [call] true)

theorem filterMap_outline_moves_batch (x : Session Script) (calls : List Call) :
    (x.moves [.batch calls]).filterMap (Move.outline? true) = x.line.callMoves calls := by
  rw [moves, List.filterMap_append, actMoves_eq]
  exact (List.append_nil _).trans (x.line.filterMap_outline_callMoves calls true)

theorem flatMap_calls_map_call (calls : List Call) :
    (calls.map Step.call).flatMap Step.calls = calls := by
  rw [List.flatMap_map]
  exact List.flatMap_singleton' calls

/-! ### What is recorded of a process -/

theorem exit_of_launched (hi : x.supervisor.processes.length ≤ i)
    (hp : (x.step s).state.supervisor.processes[i]? = some p)
    (hc : p.course = .after 0 collected) : p.exit = some (.classify collected p.fired) := by
  rw [step_supervisor, Supervisor.after_append] at hp
  obtain ⟨q, hq, rfl⟩ := Option.map_eq_some_iff.mp ((Supervisor.getElem?_settle ..).symm.trans hp)
  have hexit : q.exit = none := by
    refine Supervisor.exit_eq_none_after (fun hs => ?_) hi hq
    rw [actMoves_eq] at hs
    exact x.line.settle_not_mem_moves s hs
  rw [Process.settle_zero_course] at hc
  simp [Process.settle_zero, Process.isAlive, Process.canEnd, Process.leaves, hexit, hc,
    Process.finish]

theorem fired_of_launched_by_call {call : Call} (hi : x.supervisor.processes.length ≤ i)
    (hp : (x.step (.call call)).state.supervisor.processes[i]? = some p) : p.fired = false := by
  rw [step_supervisor, Supervisor.after_append] at hp
  obtain ⟨q, hq, rfl⟩ := Option.map_eq_some_iff.mp ((Supervisor.getElem?_settle ..).symm.trans hp)
  rw [Process.settle_fired]
  have hlen : (x.supervisor.move (.issue x.issued call)).1.processes.length =
      x.supervisor.processes.length :=
    (Supervisor.evolves_move (.inr fun _ _ _ h => by cases h)).length_eq.symm
  rw [show x.actMoves (.call call) = x.issueMoves call from rfl, issueMoves,
    Supervisor.after_cons] at hq
  have hnone : (x.supervisor.move (.issue x.issued call)).1.processes[i]? = none :=
    List.getElem?_eq_none (hlen ▸ hi)
  split at hq
  · simp [hnone] at hq
  · split at hq
    · simp [hnone] at hq
    · exact (Supervisor.process_of_move (hlen ▸ hi) hq).2.2.1

theorem exit_of_launched_by_calls {calls : List Call} (hi : x.supervisor.processes.length ≤ i)
    (hp : (x.run (calls.map .call)).supervisor.processes[i]? = some p)
    (hc : p.course = .after 0 collected) : p.exit = some (.classify collected false) := by
  induction calls generalizing x with
  | nil => exact absurd (hp.symm.trans (List.getElem?_eq_none hi)) (by simp)
  | cons call rest ih =>
    by_cases hi' : (x.step (.call call)).state.supervisor.processes.length ≤ i
    · exact ih hi' hp
    · obtain ⟨q, hq⟩ : ∃ q, (x.step (.call call)).state.supervisor.processes[i]? = some q :=
        ⟨_, List.getElem?_eq_getElem (Nat.lt_of_not_le hi')⟩
      have hexit := exit_of_launched hi hq ((tellNone_calls rest).course_run hq hp ▸ hc)
      rw [fired_of_launched_by_call hi hq] at hexit
      exact exit_run hq hexit hp

theorem map_isAlive_run (g : Settings) (steps : List Step) :
    ((fresh g).run steps).supervisor.processes.map (·.isAlive) =
      (((fresh g).run steps).supervisor.outline true).processes.map (!·.canEnd) := by
  rw [Supervisor.outline, List.map_map]
  exact List.map_congr_left fun p hp => isAlive_run hp

theorem mem_filterMap_outline {ms : List Move} {n : Nat} {r : Request} (seen : Bool) :
    .serve n r ∈ ms.filterMap (Move.outline? seen) ↔ .serve n r ∈ ms := by
  rw [List.mem_filterMap]
  constructor
  · rintro ⟨m, hm, h⟩
    cases m <;> cases h
    exact hm
  · exact fun h => ⟨_, h, rfl⟩

theorem exit_eq_or_launched {g : Settings} {before : List Step} (hs : TellNone steps)
    (ho : ((fresh g).run (before ++ steps)).supervisor.outline true =
      ((fresh g).run (before ++ steps')).supervisor.outline true)
    (hp : ((fresh g).run (before ++ steps)).supervisor.processes[i]? = some p)
    (hq : ((fresh g).run (before ++ steps')).supervisor.processes[i]? = some q) :
    p.exit = q.exit ∨ ((fresh g).run before).supervisor.processes.length ≤ i ∧
      ∃ collected, p.course = .after 0 collected ∧ q.course = .after 0 collected := by
  have hpq : p.outline true = q.outline true := by
    have h := congrArg (·.processes[i]?) ho
    simpa [Supervisor.outline, hp, hq] using h
  have hcourse : p.course = q.course :=
    show (p.outline true).course = (q.outline true).course from congrArg _ hpq
  have hend : p.canEnd = q.canEnd :=
    show (p.outline true).canEnd = (q.outline true).canEnd from congrArg _ hpq
  have halive : p.isAlive = q.isAlive := by
    rw [isAlive_run (List.mem_of_getElem? hp), isAlive_run (List.mem_of_getElem? hq), hend]
  by_cases hc : ∃ collected, p.course = .after 0 collected
  · obtain ⟨collected, hc⟩ := hc
    by_cases hi : ((fresh g).run before).supervisor.processes.length ≤ i
    · exact .inr ⟨hi, collected, hc, hcourse ▸ hc⟩
    · -- a process that was there before and was to end of itself had done so
      obtain ⟨r, hr⟩ : ∃ r, ((fresh g).run before).supervisor.processes[i]? = some r :=
        ⟨_, List.getElem?_eq_getElem (Nat.lt_of_not_le hi)⟩
      rw [run_append] at hp hq
      have hended : r.isAlive = false :=
        settled_run g before i r hr (by simp [Process.canEnd, ← hs.course_run hr hp, hc])
      obtain ⟨o, ho⟩ : ∃ o, r.exit = some o := by
        simpa [Process.isAlive, Option.isSome_iff_exists] using hended
      exact .inl ((exit_run hr ho hp).trans (exit_run hr ho hq).symm)
  · refine .inl (Process.exit_eq_of_course (sound_run g _ i p hp) (sound_run g _ i q hq) halive
      (fun collected h => hc ⟨collected, h⟩) fun collected h => hc ⟨collected, hcourse.trans h⟩)

/-- **Calls at once and one by one.** Issue some calls as one batch, or one by one. Either way
they are answered the same, and ask the launcher for the same in the same order, but for what
tells of the ends of processes. The registry, the script and the tokens are left the same. The
same processes have ended, so the same calls wait. What is recorded of a process is the same,
unless it was launched by the calls and ends of itself; then it tells, in a batch, whether its
token had fired by the end of the batch. -/
theorem batch_as_calls_one_by_one (g : Settings) (steps : List Step) (cs : List Call) :
    let x := (fresh g).run steps
    let calls := steps.flatMap Step.calls ++ cs
    let t := x.step (.batch cs)
    let y := x.run (cs.map .call)
    outlineTrace calls t.trace = outlineTrace calls (x.trace (cs.map .call)) ∧
    t.state.supervisor.outline true = y.supervisor.outline true ∧
    t.state.line = y.line ∧ (∀ n, n ∈ t.state.waiting ↔ n ∈ y.waiting) ∧
    t.state.supervisor.processes.map (·.isAlive) = y.supervisor.processes.map (·.isAlive) ∧
    t.state.supervisor.pending = y.supervisor.pending ∧
    ∀ i p q, t.state.supervisor.processes[i]? = some p → y.supervisor.processes[i]? = some q →
      p.exit = q.exit ∨ x.supervisor.processes.length ≤ i ∧ ∃ collected,
        p.course = .after 0 collected ∧ p.exit = some (.classify collected p.fired) ∧
          q.exit = some (.classify collected false) := by
  intro x calls t y
  have hx : x.Numbered (steps.flatMap Step.calls) := (numbered_fresh g).run steps
  have hcalls : [Step.batch cs].flatMap Step.calls = cs := List.flatMap_singleton ..
  have hms : (x.moves [.batch cs]).filterMap (Move.outline? true) =
      (x.moves (cs.map .call)).filterMap (Move.outline? true) := by
    rw [filterMap_outline_moves_batch, filterMap_outline_moves_calls]
  obtain ⟨hsupervisor, htrace⟩ := hx.outline_eq_of_moves (tellNone_batch cs) (tellNone_calls cs)
    (hcalls.trans (flatMap_calls_map_call cs).symm) hms
  rw [hcalls, trace_cons] at htrace
  have hline : t.state.line = y.line := (x.step_line _).trans (x.run_calls_line cs).symm
  have ht : (fresh g).run (steps ++ [.batch cs]) = t.state := run_append _ _ _
  have hy : (fresh g).run (steps ++ cs.map .call) = y := run_append _ _ _
  have halive : t.state.supervisor.processes.map (·.isAlive) =
      y.supervisor.processes.map (·.isAlive) := by
    rw [← ht, ← hy, map_isAlive_run, map_isAlive_run, ht, hy]
    exact congrArg (fun k => k.processes.map (!·.canEnd)) hsupervisor
  have hpending : t.state.supervisor.pending = y.supervisor.pending := by
    have h := congrArg (List.countP id) halive
    rwa [List.countP_map, List.countP_map] at h
  refine ⟨?_, hsupervisor, hline, fun n => ?_, halive, hpending, fun i p q hp hq => ?_⟩
  · exact (congrArg (outlineTrace calls) (List.append_nil t.trace)).symm.trans htrace
  · have hserve : .serve n .shutdown ∈ x.moves [.batch cs] ↔
        .serve n .shutdown ∈ x.moves (cs.map .call) := by
      rw [← mem_filterMap_outline true, hms, mem_filterMap_outline]
    have hqueue : t.state.queue = y.queue := congrArg Line.queue hline
    rw [← ht, ← hy, mem_waiting, mem_waiting, moves_append, moves_append, List.mem_append,
      List.mem_append, hserve, ht, hy, hpending, hqueue]
  · rw [← ht] at hp
    rw [← hy] at hq
    refine (exit_eq_or_launched (tellNone_batch cs) ?_ hp hq).imp_right ?_
    · rw [ht, hy]
      exact hsupervisor
    · rintro ⟨hi, collected, hcp, hcq⟩
      rw [ht] at hp
      rw [hy] at hq
      exact ⟨hi, collected, hcp, exit_of_launched hi hp hcp, exit_of_launched_by_calls hi hq hcq⟩

/-- A process that ends of itself is stopped by the batch that starts it. One by one, the stop
comes too late for it. -/
example :
    let x := (fresh {}).run [.script [.succeed .numbered (.after 0 (.status (.exited 3)))]]
    let cs : List Call := [.start "audio" { source := "tone" }, .stop "audio"]
    (x.step (.batch cs)).state.supervisor.processes.map (·.exit) = [some .cancelled] ∧
      (x.run (cs.map .call)).supervisor.processes.map (·.exit) = [some (.failed (some 3))] := by
  decide

end Session
end StreamSupervisor
