import StreamSupervisor.Proofs.Shutdown.Finality

/-! # Waiting for everything

A shutdown returns only at the end of a step that left no process alive. As nothing is
launched after a shutdown, every process there ever was has ended by then, and stays so.
-/

namespace StreamSupervisor

namespace Supervisor

variable {k : Supervisor Script} {m : Move} {ms : List Move}

theorem map_launch_of_evolves {ps qs : List Process} (h : List.Forall₂ Process.Evolves ps qs) :
    qs.map Process.launch = ps.map Process.launch := by
  induction h with
  | nil => rfl
  | cons he _ ih => rw [List.map_cons, List.map_cons, he.launch, ih]

theorem map_launch_move (k : Supervisor Script) (m : Move) :
    (k.move m).1.processes.map Process.launch =
      k.processes.map Process.launch ++ (k.move m).2.filterMap Happening.success? := by
  have quiet (h : ∀ n r, m ≠ .serve n r) : (k.move m).1.processes.map Process.launch =
      k.processes.map Process.launch ++ (k.move m).2.filterMap Happening.success? := by
    have ht : (k.move m).2.filterMap Happening.success? = [] := by
      refine Happening.filterMap_success?_eq_nil fun record hr => ?_
      obtain ⟨n, c, s, hm, -⟩ := mem_move_launched hr
      exact h _ _ hm
    rw [ht, List.append_nil]
    exact map_launch_of_evolves (evolves_move (.inr fun n c s => h n _))
  cases m with
  | serve n r =>
    have ha : ((k.serve r).answer.map (Happening.answered n)).toList.filterMap
        Happening.success? = [] :=
      Happening.filterMap_success?_eq_nil (by simp)
    simp only [move, List.filterMap_append, ha, List.append_nil]
    exact k.map_launch_serve r
  | _ => exact quiet (by simp)

theorem map_launch_after (k : Supervisor Script) (ms : List Move) :
    (k.after ms).processes.map Process.launch =
      k.processes.map Process.launch ++ (k.trace ms).filterMap Happening.success? := by
  induction ms generalizing k with
  | nil => simp
  | cons m ms ih =>
    rw [after_cons, ih, map_launch_move, trace_cons, List.filterMap_append, List.append_assoc]

theorem answered_of_move {n : Nat} {a : Answer} (h : .answered n a ∈ (k.move m).2) :
    (∃ call, m = .issue n call ∧ call ≠ .shutdown) ∨ ∃ r, m = .serve n r ∧ r ≠ .shutdown := by
  cases m with
  | issue i call =>
    simp only [move] at h
    split at h
    · rename_i b hc
      obtain ⟨rfl, -⟩ : n = i ∧ a = b := by simpa using h
      refine .inl ⟨call, rfl, ?_⟩
      rintro rfl
      cases hc
    · simp at h
  | serve i r =>
    rcases List.mem_append.mp h with h | h
    · rcases mem_serve_trace h with ⟨_, he⟩ | ⟨_, _, _, _, _, he⟩ <;> cases he
    · obtain ⟨b, hb, he⟩ := Option.map_eq_some_iff.mp (Option.mem_toList.mp h)
      obtain ⟨rfl, -⟩ : i = n ∧ b = a := by simpa using he
      refine .inr ⟨r, rfl, ?_⟩
      rintro rfl
      cases hb
  | settle =>
    obtain ⟨p, -, hp⟩ := List.mem_filterMap.mp h
    obtain ⟨event, -, he⟩ := Option.map_eq_some_iff.mp hp
    cases he
  | _ => simp [move] at h

end Supervisor

namespace Session

open Supervisor

variable {x : Session Script} {calls : List Call} {s : Step} {steps : List Step} {n : Nat}
  {a : Answer}

theorem filterMap_success?_trace (x : Session Script) (steps : List Step) :
    (x.trace steps).filterMap Happening.success? =
      (x.supervisor.trace (x.moves steps)).filterMap Happening.success? :=
  x.filterMap_trace (fun _ _ => rfl) steps

theorem map_launch_run (g : Settings) (steps : List Step) :
    ((fresh g).run steps).supervisor.processes.map Process.launch =
      ((fresh g).trace steps).filterMap Happening.success? := by
  rw [run_supervisor, map_launch_after, filterMap_success?_trace]
  rfl

theorem Numbered.answered_not_mem_moves (h : x.Numbered calls) {later : List Call}
    (hn : (calls ++ s.calls ++ later)[n]? = some .shutdown) :
    .answered n a ∉ x.supervisor.trace (x.actMoves s ++ [.settle]) := by
  intro ha
  obtain ⟨before, m, rest, hms, hm⟩ := Supervisor.mem_trace_iff.mp ha
  have hmem : m ∈ x.actMoves s ++ [.settle] := by simp [hms]
  have hnum : m.Numbered (calls ++ s.calls ++ later) := by
    rcases List.mem_append.mp hmem with hmem | hmem
    · exact ((h.act s).2 m hmem).append later
    · rw [List.mem_singleton.mp hmem]
      trivial
  rcases answered_of_move hm with ⟨call, rfl, hcall⟩ | ⟨r, rfl, hr⟩
  · exact hcall (Option.some.inj (hnum.symm.trans hn))
  · obtain ⟨call, hcall, hask⟩ := hnum
    obtain rfl := Option.some.inj (hcall.symm.trans hn)
    exact hr ((Call.asks_shutdown r).mp hask)

theorem Numbered.returning_of_answered (h : x.Numbered calls) {later : List Call}
    (hn : (calls ++ s.calls ++ later)[n]? = some .shutdown)
    (ha : .answered n a ∈ (x.step s).trace) : n ∈ x.returning s := by
  rw [step_trace] at ha
  rcases List.mem_append.mp ha with ha | ha
  · exact (h.answered_not_mem_moves hn ha).elim
  · obtain ⟨i, hi, he⟩ := List.mem_map.mp ha
    obtain ⟨rfl, -⟩ := Happening.answered.inj he
    exact hi

theorem of_mem_returning (h : n ∈ x.returning s) :
    (x.step s).state.supervisor.pending = 0 ∧ n ∈ (x.act s).state.draining := by
  unfold returning at h
  split at h
  · exact ⟨‹_›, h⟩
  · cases h

theorem shutDown_and_pending_of_answered {g : Settings}
    (hn : (steps.flatMap Step.calls)[n]? = some .shutdown)
    (ha : .answered n a ∈ (fresh g).trace steps) :
    ((fresh g).run steps).supervisor.shutDown = true ∧
      ((fresh g).run steps).supervisor.pending = 0 := by
  obtain ⟨before, s, rest, rfl, hstep⟩ := mem_trace_iff_step.mp ha
  have hx : ((fresh g).run before).Numbered (before.flatMap Step.calls) :=
    (numbered_fresh g).run before
  rw [List.flatMap_append, List.flatMap_cons, ← List.append_assoc] at hn
  obtain ⟨hp, hd⟩ := of_mem_returning (hx.returning_of_answered hn hstep)
  have hs : (((fresh g).run before).step s).state.supervisor.shutDown = true := by
    have hmem : .shutdown ∈ (before ++ [s]).flatMap Step.calls := by
      simpa using List.mem_of_getElem? ((hx.act s).1.draining n hd)
    rw [← shutDown_after_moves_iff (g := g), ← run_supervisor, run_append] at hmem
    exact hmem
  have hr : (fresh g).run (before ++ s :: rest) =
      (((fresh g).run before).step s).state.run rest := run_append _ _ _
  rw [hr, run_supervisor]
  exact ⟨shutDown_after.mpr (.inl hs), Nat.le_zero.mp (hp ▸ pending_after_le hs _)⟩

/-- **A shutdown waits for everything.** Once a shutdown has returned, all the processes that
were ever launched are there with their exits recorded, and none is waited for. So it is
then, and after any moves that follow. -/
theorem returned_shutdown_leaves_nothing_running (g : Settings) {steps : List Step} {n : Nat}
    {a : Answer} (hn : (steps.flatMap Step.calls)[n]? = some .shutdown)
    (ha : .answered n a ∈ (fresh g).trace steps) (ms : List Move) :
    let k := ((fresh g).run steps).supervisor.after ms
    k.processes.map Process.launch = ((fresh g).trace steps).filterMap Happening.success? ∧
      (∀ p ∈ k.processes, ∃ o, p.exit = some o) ∧
      k.check .pendingReapers = .answered (.count 0) := by
  intro k
  obtain ⟨hs, hp⟩ := shutDown_and_pending_of_answered hn ha
  have hk : k.pending = 0 := Nat.le_zero.mp (hp ▸ pending_after_le hs ms)
  refine ⟨?_, fun p hmem => ?_, by rw [check, hk]⟩
  · have hms : (((fresh g).run steps).supervisor.trace ms).filterMap Happening.success? = [] :=
      Happening.filterMap_success?_eq_nil fun _ => launched_not_mem_trace hs _
    rw [map_launch_after, hms, List.append_nil, run_supervisor, map_launch_after,
      filterMap_success?_trace]
    rfl
  · have ha := List.countP_eq_zero.mp hk p hmem
    simpa [Process.isAlive, Option.ne_none_iff_exists'] using ha

/-- A shutdown waits for a process that ignores its token. -/
theorem returned_shutdown_leaves_nothing_running_slow :
    let steps : List Step :=
      [.script [.succeed .numbered .untilTold], .call (.start "audio" { source := "tone" }),
        .call .shutdown, .exit 0 (.status (.exited 0))]
    let k := ((fresh {}).run steps).supervisor.after [.issue 2 .stopAll]
    .answered 1 .done ∉ (fresh {}).trace (steps.take 3) ∧
      .answered 1 .done ∈ (fresh {}).trace steps ∧ k.processes.length = 1 ∧
      (∀ p ∈ k.processes, ∃ o, p.exit = some o) ∧
      k.check .pendingReapers = .answered (.count 0) := by
  intro steps k
  have ha : .answered 1 .done ∈ (fresh {}).trace steps := by decide
  obtain ⟨-, hexit, hpending⟩ :=
    returned_shutdown_leaves_nothing_running {} (n := 1) (by decide) ha [.issue 2 .stopAll]
  exact ⟨by decide, ha, by decide, hexit, hpending⟩

end Session
end StreamSupervisor
