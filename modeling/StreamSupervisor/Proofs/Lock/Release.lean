import Mathlib.Data.List.Nodup
import StreamSupervisor.Proofs.Lock.Hold

/-! # Giving the registry back

When the registry is given back, those in line are served one after the other. This comes
to the same as issuing their calls as one batch on the session with the registry free and
nobody in line; only the numbers of the calls are not the same.
-/

namespace StreamSupervisor

def Happening.renumber (f : Nat → Nat) : Happening → Happening
  | answered n a => answered (f n) a
  | e => e

theorem map_renumber_eq_self {f : Nat → Nat} {trace : List Happening} (h : answered trace = []) :
    trace.map (.renumber f) = trace := by
  refine (List.map_congr_left fun e he => ?_).trans (List.map_id' trace)
  cases e with
  | answered n a =>
    have hn : n ∈ answered trace := mem_answered.mpr ⟨a, he⟩
    rw [h] at hn
    cases hn
  | _ => rfl

namespace Supervisor

variable {k : Supervisor Script}

theorem fireAll_eq_self (hs : k.shutDown = true) (hq : k.Quenched) : k.fireAll = k := by
  have hp : k.processes.map .fire = k.processes := by
    refine (List.map_congr_left fun p hp => ?_).trans (List.map_id' k.processes)
    obtain ⟨i, hi⟩ := List.mem_iff_getElem?.mp hp
    have hf := hq hs i p hi
    cases p
    exact congrArg (Process.mk _ _ _ _ · _) hf.symm
  cases k
  simp_all [fireAll]

theorem announce_eq_self {call : Call} (hs : call = .shutdown → k.shutDown = true)
    (hq : k.Quenched) : k.announce call = k := by
  cases call with
  | shutdown => exact fireAll_eq_self (hs rfl) hq
  | _ => rfl

end Supervisor

namespace Session

variable {f : Nat → Nat} {x y : Session Script}

structure Renumbers (f : Nat → Nat) (x y : Session Script) : Prop where
  supervisor : y.supervisor = x.supervisor
  draining : y.draining = x.draining.map f

theorem Renumbers.perform (h : Renumbers f x y) (n : Nat) (r : Request) :
    Renumbers f (x.perform n r).1 (y.perform (f n) r).1 ∧
      (y.perform (f n) r).2 = (x.perform n r).2.map (.renumber f) := by
  have ht := map_renumber_eq_self (f := f) (x.supervisor.answered_serve r)
  simp only [Session.perform, h.supervisor]
  split
  · exact ⟨⟨rfl, h.draining⟩, by simp [ht, Happening.renumber]⟩
  · exact ⟨⟨rfl, by simp [h.draining]⟩, ht.symm⟩

theorem answered_settle (k : Supervisor Script) : answered (k.settle 0).trace = [] := by
  simpa [Supervisor.move, Move.drained?, Move.disposed?] using k.answered_move .settle

theorem Renumbers.settle (h : Renumbers f x y) :
    Renumbers f (x.settle 0).1 (y.settle 0).1 ∧
      (y.settle 0).2 = (x.settle 0).2.map (.renumber f) := by
  have ht := map_renumber_eq_self (f := f) (answered_settle x.supervisor)
  simp only [Session.settle, h.supervisor]
  split
  · exact ⟨⟨rfl, rfl⟩, by simp [ht, h.draining, Happening.renumber, Function.comp_def]⟩
  · exact ⟨⟨rfl, h.draining⟩, ht.symm⟩

theorem issue_eq_perform {call : Call} {r : Request} (hheld : x.held = false)
    (hr : call.request? = some r) (ha : x.supervisor.announce call = x.supervisor) :
    x.issue call = { x with issued := x.issued + 1 }.perform x.issued r := by
  simp only [issue, ha, Call.check_eq_queued_iff.mpr hr, hheld, Bool.false_eq_true, if_false]

theorem Renumbers.issueAll {calls : List Call} {queue : List (Nat × Request)}
    (h : Renumbers f x y) (hheld : x.held = false) (hq : x.supervisor.Quenched)
    (hc : List.Forall₂ (fun call p => call.request? = some p.2) calls queue)
    (hs : .shutdown ∈ calls → x.supervisor.shutDown = true)
    (hf : ∀ i p, queue[i]? = some p → f (x.issued + i) = p.1) :
    Renumbers f (x.issueAll calls).1 (y.performAll queue).1 ∧
      (y.performAll queue).2 = (x.issueAll calls).2.map (.renumber f) := by
  induction hc generalizing x y with
  | nil => exact ⟨h, rfl⟩
  | @cons call p calls queue hr hc ih =>
    have ha : x.supervisor.announce call = x.supervisor :=
      Supervisor.announce_eq_self (fun hcall => hs (hcall ▸ List.mem_cons_self)) hq
    have hn : f x.issued = p.1 := hf 0 p rfl
    have hx : Renumbers f { x with issued := x.issued + 1 } y := ⟨h.supervisor, h.draining⟩
    obtain ⟨hone, htrace⟩ := hx.perform x.issued p.2
    have hline := perform_line { x with issued := x.issued + 1 } x.issued p.2
    have hsup := (perform_comesTo { x with issued := x.issued + 1 } x.issued p.2).1
    rw [hn] at hone htrace
    simp only [Session.issueAll, performAll, issue_eq_perform hheld hr ha]
    obtain ⟨hrest, htraces⟩ := ih hone ((congrArg Line.held hline).trans hheld)
      (hsup ▸ hq.after _)
      (fun hcall => hsup ▸ Supervisor.shutDown_after.mpr (.inl (hs (List.mem_cons_of_mem _ hcall))))
      (fun i p hp => by
        rw [show Session.issued _ = x.issued + 1 from congrArg Line.issued hline]
        exact (congrArg f (by omega)).trans (hf (i + 1) p hp))
    exact ⟨hrest, by rw [htraces, htrace, List.map_append]⟩

/-! ### A stretch and its release -/

variable {g : Settings} {steps : List Step} {calls : List Call} {s : Step} {call : Call} {i : Nat}

theorem Numbered.answered_of_prompt (h : x.Numbered calls) (hi : s.calls[i]? = some call)
    (hr : call.request? = none) : ∃ a, .answered (x.issued + i) a ∈ (x.step s).trace := by
  have hm : x.issued + i ∈ (x.actMoves s).filterMap Move.disposed? := by
    rw [actMoves_eq]
    exact List.mem_filterMap.mpr ⟨_, Line.issue_mem_moves hi, by simp [Move.disposed?, hr, line]⟩
  rcases List.mem_append.mp
    ((x.answered_step s).mem_iff.mpr (List.mem_append_right _ hm)) with hn | hn
  · exact mem_answered.mp hn
  · have hshut := (h.step s).draining _ hn
    rw [h.issued, List.getElem?_append_right (Nat.le_add_right _ _), Nat.add_sub_cancel_left,
      hi] at hshut
    cases hshut
    cases hr

theorem mem_queue_of_call {rest : List Step} {r : Request} (hh : x.held = true)
    (hs : .release ∉ s :: rest) (hi : s.calls[i]? = some call) (hr : call.request? = some r) :
    (x.issued + i, r) ∈ (x.run (s :: rest)).queue := by
  have hq : (x.run (s :: rest)).queue =
      x.queue ++ requestsFrom x.issued ((s :: rest).flatMap Step.calls) := by
    simpa [Line.issueAll, line, hh] using congrArg Line.queue (run_line_of_held hh hs)
  rw [hq]
  refine List.mem_append_right _ (mem_requestsFrom.mpr ⟨call, Nat.le_add_right _ _, ?_, hr⟩)
  rw [Nat.add_sub_cancel_left, List.flatMap_cons,
    List.getElem?_append_left (List.getElem?_eq_some_iff.mp hi).1, hi]

theorem count_disposed {p : Nat × Request} (hp : p ∈ ((fresh g).run steps).queue)
    (later : List Step) :
    (((fresh g).moves (steps ++ .release :: later)).filterMap Move.disposed?).count p.1 = 1 := by
  have hnodup := ((fresh g).disposed_run (steps ++ .release :: later)).nodup_iff.mpr
    (by simpa [fresh] using List.nodup_range')
  refine List.count_eq_one_of_mem (List.nodup_append.mp hnodup).1 ?_
  rw [moves_append, List.filterMap_append]
  refine List.mem_append_right _ (List.mem_filterMap.mpr ⟨.serve p.1 p.2, ?_, rfl⟩)
  exact List.mem_append_left _ (List.mem_map_of_mem hp)

/-- The session with the registry free and nobody in line. -/
def freed (x : Session Script) : Session Script := { x with held := false, queue := [] }

/-- The number in line of the call that is number `n` when those in line are issued anew. -/
def lineNumber (x : Session Script) (n : Nat) : Nat :=
  if n < x.issued then n else x.queue[n - x.issued]?.elim n (·.1)

/-- Turns that are the same but for the numbers of the calls. -/
structure SameButNumbers (f : Nat → Nat) (t t' : Turn (Session Script) StepAnswer) : Prop where
  supervisor : t'.state.supervisor = t.state.supervisor
  held : t'.state.held = t.state.held
  queue : t'.state.queue = t.state.queue
  draining : t'.state.draining = t.state.draining.map f
  trace : t'.trace = t.trace.map (.renumber f)

/-- The calls of those who stand in line. -/
def inLine (x : Session Script) (calls : List Call) : List Call :=
  x.queue.filterMap fun p => calls[p.1]?

theorem Numbered.inLine_asks (h : x.Numbered calls) :
    List.Forall₂ (fun call p => call.request? = some p.2) (x.inLine calls) x.queue := by
  have hq : ∀ p ∈ x.queue, ∃ call, calls[p.1]? = some call ∧ call.request? = some p.2 := by
    intro p hp
    obtain ⟨call, hn, ha⟩ := h.queue p hp
    exact ⟨call, hn, Call.asks_iff.mp ha⟩
  unfold inLine
  generalize x.queue = queue at hq ⊢
  induction queue with
  | nil => exact .nil
  | cons p rest ih =>
    obtain ⟨⟨call, hn, hr⟩, hrest⟩ := List.forall_mem_cons.mp hq
    rw [List.filterMap_cons_some (f := fun p : Nat × Request => calls[p.1]?) hn]
    exact .cons hr (ih hrest)

theorem Numbered.release_as_batch (h : x.Numbered calls) (hq : x.supervisor.Quenched)
    (hs : .shutdown ∈ calls → x.supervisor.shutDown = true) :
    SameButNumbers x.lineNumber (x.freed.step (.batch (x.inLine calls))) (x.step .release) := by
  have hdraining : x.draining.map x.lineNumber = x.draining := by
    refine (List.map_congr_left fun n hn => ?_).trans (List.map_id' _)
    have hlt : n < x.issued := h.issued ▸ (List.getElem?_eq_some_iff.mp (h.draining n hn)).1
    rw [lineNumber, if_pos hlt]
  have hnumber (i : Nat) (p : Nat × Request) (hp : x.queue[i]? = some p) :
      x.lineNumber (x.issued + i) = p.1 := by
    rw [lineNumber, if_neg (by omega), Nat.add_sub_cancel_left, hp]
    rfl
  have hmem : .shutdown ∈ x.inLine calls → x.supervisor.shutDown = true := by
    intro hcall
    obtain ⟨p, -, hp⟩ := List.mem_filterMap.mp hcall
    exact hs (List.mem_of_getElem? hp)
  have hbatch : (x.freed.act (.batch (x.inLine calls))).state =
      (x.freed.issueAll (x.inLine calls)).1 ∧ (x.freed.act (.batch (x.inLine calls))).trace =
      (x.freed.issueAll (x.inLine calls)).2 := by
    cases x.inLine calls <;> exact ⟨rfl, rfl⟩
  obtain ⟨hact, htrace⟩ := Renumbers.issueAll (x := x.freed) (y := x.freed)
    ⟨rfl, hdraining.symm⟩ rfl hq h.inLine_asks hmem hnumber
  obtain ⟨hend, hends⟩ := hact.settle
  have hline : (x.step .release).state.line.held = false ∧
      (x.step .release).state.line.queue = [] := by
    rw [step_line]
    exact ⟨rfl, rfl⟩
  have hfree : (x.freed.step (.batch (x.inLine calls))).state.line.held = false ∧
      (x.freed.step (.batch (x.inLine calls))).state.line.queue = [] := by
    rw [step_line]
    exact ⟨rfl, by simp [Line.act, Line.issueAll, line, freed]⟩
  simp only [← hbatch.1, ← hbatch.2] at htrace hend hends
  exact ⟨hend.supervisor, hline.1.trans hfree.1.symm, hline.2.trans hfree.2.symm, hend.draining,
    (congrArg₂ (· ++ ·) htrace hends).trans List.map_append.symm⟩

theorem Numbered.answered_or_draining (h : x.Numbered calls) {p : Nat × Request}
    (hp : p ∈ x.queue) : (∃ a, .answered p.1 a ∈ (x.step .release).trace) ∨
      p.2 = .shutdown ∧ p.1 ∈ (x.step .release).state.draining := by
  have hm : p.1 ∈ (x.actMoves .release).filterMap Move.disposed? :=
    List.mem_filterMap.mpr ⟨.serve p.1 p.2, List.mem_map_of_mem hp, rfl⟩
  rcases List.mem_append.mp
    ((x.answered_step .release).mem_iff.mpr (List.mem_append_right _ hm)) with hn | hn
  · exact .inl (mem_answered.mp hn)
  · obtain ⟨call, hcall, ha⟩ := h.queue p hp
    have hshut := (h.step .release).draining _ hn
    rw [show Step.calls .release = [] from rfl, List.append_nil, hcall] at hshut
    cases hshut
    exact .inr ⟨(Call.asks_shutdown _).mp ha, hn⟩

theorem answered_trace_serves (k : Supervisor Script) (queue : List (Nat × Request)) :
    answered (k.trace (queue.map fun p => .serve p.1 p.2)) =
      (queue.filter fun p => p.2 ≠ .shutdown).map (·.1) := by
  induction queue generalizing k with
  | nil => rfl
  | cons p rest ih =>
    have hone := k.answered_move (.serve p.1 p.2)
    rw [List.map_cons, Supervisor.trace_cons, answered_append, ih]
    by_cases hp : p.2 = .shutdown
    · have hdrained : (Move.serve p.1 p.2).drained? = some p.1 := by
        rw [hp]
        rfl
      rw [hdrained] at hone
      rw [List.append_left_eq_self.mp hone, List.filter_cons_of_neg (by simp [hp])]
      rfl
    · have hdrained : (Move.serve p.1 p.2).drained? = none :=
        Option.eq_none_iff_forall_ne_some.mpr fun n hn =>
          hp (Move.serve.inj (Move.drained?_eq_some_iff.mp hn)).2
      rw [hdrained, Option.toList_none, List.append_nil] at hone
      rw [hone, List.filter_cons_of_pos (by simp [hp])]
      rfl

theorem release_trace (x : Session Script) : ∃ ended,
    (x.step .release).trace =
      x.supervisor.trace (x.queue.map fun p => .serve p.1 p.2) ++ ended ∧
    ∀ e ∈ ended, (∃ i event, e = .reaped i event) ∨ ∃ n, e = .answered n .done := by
  have htrace := x.step_trace .release
  rw [Supervisor.trace_append, List.append_assoc] at htrace
  refine ⟨_, htrace, fun e he => ?_⟩
  rcases List.mem_append.mp he with he | he
  · simp only [Supervisor.trace_cons, Supervisor.trace_nil, List.append_nil, Supervisor.move,
      Supervisor.settle, List.mem_filterMap, Option.map_eq_some_iff] at he
    obtain ⟨p, -, event, -, rfl⟩ := he
    exact .inl ⟨p.2, event, rfl⟩
  · obtain ⟨n, -, rfl⟩ := List.mem_map.mp he
    exact .inr ⟨n, rfl⟩

theorem held_after_hold (g : Settings) (before : List Step) :
    ((fresh g).run (before ++ [.hold])).held = true := by
  rw [run_append]
  exact congrArg Line.held (step_line _ .hold)

/-- **First come, first served.** From a hold to the release that follows, only the guard
changes the registry, nothing is launched, and no token fires but by a cancel by hand or the
issue of a shutdown. Calls that do without the registry are answered in the step that issues
them, and all others stand in line, unanswered. On release each of those is served once, in the
order of their issue: what the release does comes about in that order, and so do the answers, but
for the shutdowns, which return last. It all comes to the same as issuing their calls as one batch
on the session with the registry free. Nobody stays in line: they are answered, or wait for the
processes to end. -/
theorem release_serves_those_in_line (g : Settings) (before : List Step) {stretch : List Step}
    (hs : .release ∉ stretch) :
    let steps := before ++ .hold :: stretch
    let x₀ := (fresh g).run (before ++ [.hold])
    let x := (fresh g).run steps
    (∀ earlier m later, x₀.moves stretch = earlier ++ m :: later →
      (x₀.supervisor.after earlier).KeptOut m) ∧
    (∀ pre s post, stretch = pre ++ s :: post → ∀ i call, s.calls[i]? = some call →
      let y := x₀.run pre
      (call.Prompt → ∃ a, .answered (y.issued + i) a ∈ (y.step s).trace) ∧
      (¬ call.Prompt → (∃ r, (y.issued + i, r) ∈ x.queue) ∧
        ∀ a, .answered (y.issued + i) a ∉ (fresh g).trace steps)) ∧
    (x.queue.map (·.1)).Pairwise (· < ·) ∧
    (∃ served ended, (x.step .release).trace = served ++ ended ∧
      served = x.supervisor.trace (x.queue.map fun p => .serve p.1 p.2) ∧
      answered served = (x.queue.filter fun p => p.2 ≠ .shutdown).map (·.1) ∧
      ∀ e ∈ ended, (∃ i event, e = .reaped i event) ∨ ∃ n, e = .answered n .done) ∧
    (∀ later, ∀ p ∈ x.queue,
      (((fresh g).moves (steps ++ .release :: later)).filterMap Move.disposed?).count p.1 = 1) ∧
    ((∃ p ∈ x.queue, p.2 = .shutdown) → x.supervisor.shutDown = true) ∧
    SameButNumbers x.lineNumber (x.freed.step (.batch (x.inLine (steps.flatMap Step.calls))))
      (x.step .release) ∧
    (x.step .release).state.queue = [] ∧
    ∀ p ∈ x.queue, (∃ a, .answered p.1 a ∈ (x.step .release).trace) ∨
      p.2 = .shutdown ∧ p.1 ∈ (x.step .release).state.draining := by
  intro steps x₀ x
  have hx : x.Numbered (steps.flatMap Step.calls) := (numbered_fresh g).run steps
  have hx₀ : x₀.held = true := held_after_hold g before
  have hsteps : steps = (before ++ [.hold]) ++ stretch := by simp [steps]
  have hrun : x = x₀.run stretch := by simp only [x, x₀, hsteps, run_append]
  have hshut : .shutdown ∈ steps.flatMap Step.calls → x.supervisor.shutDown = true := by
    rw [← shutDown_after_moves_iff (g := g), ← run_supervisor]
    exact id
  have hquenched : x.supervisor.Quenched := run_supervisor _ _ ▸ (quenched_fresh g).after _
  obtain ⟨ended, htrace, hended⟩ := x.release_trace
  refine ⟨fun earlier m later hm => Supervisor.keptOut fun n r hmr => ?_,
    fun pre s post hpre i call hi => ⟨fun hp => ?_, fun hp => ?_⟩,
    (ordered_run g steps).ascending,
    ⟨_, ended, htrace, rfl, answered_trace_serves _ _, hended⟩,
    fun later p hp => count_disposed hp later, ?_,
    hx.release_as_batch hquenched hshut, congrArg Line.queue (x.step_line .release),
    fun p hp => hx.answered_or_draining hp⟩
  · refine serve_not_mem_moves_of_held hx₀ hs n r ?_
    rw [hm, hmr]
    exact List.mem_append_right _ List.mem_cons_self
  · have hy : (x₀.run pre).Numbered ((before ++ [Step.hold] ++ pre).flatMap Step.calls) := by
      rw [← run_append]
      exact (numbered_fresh g).run _
    exact hy.answered_of_prompt hi (Call.prompt_iff.mp hp)
  · obtain ⟨r, hr⟩ := Option.ne_none_iff_exists'.mp (mt Call.prompt_iff.mpr hp)
    have hheld : (x₀.run pre).held = true := by
      have hpres : .release ∉ pre := fun h => hs (hpre ▸ List.mem_append_left _ h)
      exact (congrArg Line.held (run_line_of_held hx₀ hpres)).trans hx₀
    have hrest : .release ∉ s :: post := fun h => hs (hpre ▸ List.mem_append_right _ h)
    have hmem := mem_queue_of_call hheld hrest hi hr
    rw [← run_append, ← hpre, ← hrun] at hmem
    exact ⟨⟨r, hmem⟩, (unfinished_iff.mpr (.inl ⟨r, hmem⟩)).2⟩
  · rintro ⟨p, hp, hr⟩
    obtain ⟨call, hn, ha⟩ := hx.queue p hp
    rw [hr] at ha
    exact hshut (Call.eq_shutdown_of_asks ha ▸ List.mem_of_getElem? hn)

/-- A restart, a list and a shutdown stand in line, while a bad key is refused at once and the
handle on show is cancelled by hand. -/
theorem release_serves_those_in_line_mixed :
    let spec : StreamSpec := { source := "tone", restart := true }
    let before : List Step := [.call (.start "audio" spec)]
    let stretch : List Step := [.call (.start "audio" spec), .call (.stop "radio"),
      .guard (.cancel .audio), .batch [.list, .shutdown, .pendingReapers]]
    let steps := before ++ .hold :: stretch
    let x₀ := (fresh {}).run (before ++ [.hold])
    let x := (fresh {}).run steps
    .release ∉ stretch ∧ x.queue = [(1, .start .audio spec), (3, .list), (4, .shutdown)] ∧
      (x₀.supervisor.after [.issue 1 (.start "audio" spec), .settle, .issue 2 (.stop "radio"),
        .settle]).KeptOut (.guard (.cancel .audio)) ∧
      (∃ a, .answered 2 a ∈ ((x₀.run (stretch.take 1)).step (.call (.stop "radio"))).trace) ∧
      (∀ a, .answered 3 a ∉ (fresh {}).trace steps) ∧ x.supervisor.shutDown = true ∧
      x.inLine (steps.flatMap Step.calls) = [.start "audio" spec, .list, .shutdown] ∧
      SameButNumbers x.lineNumber (x.freed.step (.batch (x.inLine (steps.flatMap Step.calls))))
        (x.step .release) ∧
      (∃ served ended, (x.step .release).trace = served ++ ended ∧ answered served = [1, 3]) ∧
      .answered 1 (.refused .shutDown) ∈ (x.step .release).trace ∧
      .answered 4 .done ∈ (x.step .release).trace := by
  intro spec before stretch steps x₀ x
  have hs : .release ∉ stretch := by decide
  obtain ⟨hkept, hcalls, -, ⟨served, ended, htrace, -, hanswered, -⟩, -, -, hbatch, -, -⟩ :=
    release_serves_those_in_line {} before hs
  have hmoves : x₀.moves stretch = [.issue 1 (.start "audio" spec), .settle,
      .issue 2 (.stop "radio"), .settle] ++ .guard (.cancel .audio) ::
      [.settle, .issue 3 .list, .issue 4 .shutdown, .issue 5 .pendingReapers, .settle] := by
    decide
  have hprompt := (hcalls (stretch.take 1) (.call (.stop "radio")) (stretch.drop 2) rfl 0 _ rfl).1
    (show Channel.ofKey? "radio" = none by decide)
  have hlist := (hcalls (stretch.take 3) _ [] rfl 0 .list rfl).2 id
  rw [show (x₀.run (stretch.take 1)).issued + 0 = 2 by decide] at hprompt
  rw [show (x₀.run (stretch.take 3)).issued + 0 = 3 by decide] at hlist
  have hqueue : x.queue = [(1, .start .audio spec), (3, .list), (4, .shutdown)] := by decide
  rw [hqueue] at hanswered
  exact ⟨hs, hqueue, hkept _ _ _ hmoves, hprompt, hlist.2, by decide, by decide, hbatch,
    ⟨served, ended, htrace, hanswered⟩, by decide, by decide⟩

end Session
end StreamSupervisor
