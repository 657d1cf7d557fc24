import StreamSupervisor.Proofs.Ending.Outline

/-! # Decisions do not depend on how processes end

Sessions that differ only in how processes end go the same way: what their steps show, the
ends of processes left out, is the same.
-/

namespace StreamSupervisor

/-- What is left of a step when processes do not end. -/
def Step.outline? : Step → Option Step
  | exit .. => none
  | script launches => some (script (launches.map (.outline false)))
  | s => some s

/-- What a step shows to somebody who does not see how processes end. -/
structure Outline where
  answer : StepAnswer
  trace : List Happening
  supervisor : Supervisor Script
  line : Line
deriving DecidableEq, Repr

def Turn.outline (calls : List Call) (t : Turn (Session Script) StepAnswer) : Outline where
  answer := t.answer.outline
  trace := outlineTrace calls t.trace
  supervisor := t.state.supervisor.outline false
  line := t.state.line

theorem ScriptedLaunch.outline_outline (l : ScriptedLaunch) (seen : Bool) :
    (l.outline seen).outline seen = l.outline seen := by
  cases l <;> cases seen <;> rfl

namespace Step

variable {s s' : Step}

theorem calls_of_outline_none (h : s.outline? = none) : s.calls = [] := by
  cases s <;> first | rfl | cases h

theorem outline_outline (h : s.outline? = some s') : s'.outline? = some s' := by
  cases s with
  | script launches =>
    cases h
    simp [outline?, ScriptedLaunch.outline_outline]
  | exit i collected => cases h
  | _ => cases h; rfl

theorem calls_of_outline (h : s.outline? = some s') : s'.calls = s.calls := by
  cases s <;> cases h <;> rfl

theorem flatMap_calls_outline (steps : List Step) :
    (steps.filterMap outline?).flatMap calls = steps.flatMap calls := by
  induction steps with
  | nil => rfl
  | cons s rest ih =>
    cases h : s.outline? with
    | none =>
      rw [List.filterMap_cons_none h, ih, List.flatMap_cons, calls_of_outline_none h,
        List.nil_append]
    | some s' =>
      rw [List.filterMap_cons_some h, List.flatMap_cons, List.flatMap_cons, ih, calls_of_outline h]

end Step

namespace Line

variable {l : Line} {s s' : Step}

theorem act_of_outline (h : s.outline? = some s') : l.act s' = l.act s := by
  cases s <;> cases h <;> rfl

theorem moves_of_outline (h : s.outline? = some s') :
    (l.moves s').filterMap (Move.outline? false) = (l.moves s).filterMap (Move.outline? false) := by
  cases s with
  | script launches =>
    cases h
    simp [moves, Move.outline?, ScriptedLaunch.outline_outline]
  | exit i collected => cases h
  | _ => cases h; rfl

end Line

namespace Session

variable {x y : Session Script} {before calls later : List Call} {s s' : Step}

/-- Two sessions that differ in how processes end and in nothing else. -/
structure Alike (x y : Session Script) : Prop where
  supervisor : x.supervisor.outline false = y.supervisor.outline false
  line : x.line = y.line

theorem Alike.trans {z : Session Script} (h : x.Alike y) (h' : y.Alike z) : x.Alike z :=
  ⟨h.supervisor.trans h'.supervisor, h.line.trans h'.line⟩

theorem Alike.symm (h : x.Alike y) : y.Alike x := ⟨h.supervisor.symm, h.line.symm⟩

theorem Alike.registry (h : x.Alike y) : x.supervisor.registry = y.supervisor.registry :=
  show (x.supervisor.outline false).registry = _ from h.supervisor ▸ rfl

theorem outline_step_supervisor (x : Session Script) (s : Step) :
    (x.step s).state.supervisor.outline false =
      (x.supervisor.outline false).after ((x.line.moves s).filterMap (Move.outline? false)) := by
  rw [step_supervisor, Supervisor.outline_after false _ (by simp), List.filterMap_append,
    actMoves_eq]
  exact congrArg _ (List.append_nil _)

theorem outlineTrace_returning {ns : List Nat} (h : ∀ n ∈ ns, calls[n]? = some .shutdown) :
    outlineTrace calls (ns.map fun n => .answered n .done) = [] := by
  refine List.filterMap_eq_nil_iff.mpr fun e he => ?_
  obtain ⟨n, hn, rfl⟩ := List.mem_map.mp he
  simp [Happening.outline?, h n hn]

theorem Numbered.outlineTrace_step (h : x.Numbered before) (s : Step) (later : List Call) :
    outlineTrace (before ++ s.calls ++ later) (x.step s).trace =
      outlineTrace (before ++ s.calls ++ later)
        (x.supervisor.trace (x.actMoves s ++ [.settle])) := by
  rw [step_trace, outlineTrace_append, outlineTrace_returning, List.append_nil]
  intro n hn
  exact getElem?_append_of_eq_some ((h.act s).1.draining n (of_mem_returning hn).2)

theorem Numbered.outline_step_trace (h : x.Numbered before) (s : Step) (later : List Call) :
    outlineTrace (before ++ s.calls ++ later) (x.step s).trace =
      outlineTrace (before ++ s.calls ++ later) ((x.supervisor.outline false).trace
        ((x.line.moves s).filterMap (Move.outline? false))) := by
  have hms : ∀ m ∈ x.actMoves s ++ [.settle], m.Numbered (before ++ s.calls ++ later) := by
    refine List.forall_mem_append.mpr ⟨fun m hm => ((h.act s).2 m hm).append later, ?_⟩
    simp [Move.Numbered]
  rw [h.outlineTrace_step, Supervisor.outline_trace false _ (by simp) hms, List.filterMap_append,
    actMoves_eq]
  exact congrArg (fun ms => outlineTrace _ (Supervisor.trace _ ms)) (List.append_nil _)

theorem outline_answer (hxy : x.Alike y) (h : s.outline? = some s') :
    (x.step s).answer.outline = (y.step s').answer.outline := by
  have hheld : x.held = y.held := congrArg Line.held hxy.line
  cases s with
  | guard call =>
    cases h
    simp only [step, act, hheld]
    split
    · rw [(x.supervisor.outline_guardStep false call).2, hxy.supervisor,
        ← (y.supervisor.outline_guardStep false call).2]
    · rfl
  | exit i collected => cases h
  | batch cs => cases h; cases cs <;> rfl
  | _ => cases h; rfl

theorem Numbered.outline_step (hx : x.Numbered before) (hy : y.Numbered before)
    (hxy : x.Alike y) (h : s.outline? = some s') (later : List Call) :
    (x.step s).outline (before ++ s.calls ++ later) =
      (y.step s').outline (before ++ s.calls ++ later) := by
  have htrace := hy.outline_step_trace s' later
  rw [Step.calls_of_outline h, Line.moves_of_outline h, ← hxy.supervisor, ← hxy.line,
    ← hx.outline_step_trace] at htrace
  simp only [Turn.outline, Outline.mk.injEq]
  refine ⟨outline_answer hxy h, htrace.symm, ?_, ?_⟩
  · rw [outline_step_supervisor, outline_step_supervisor, Line.moves_of_outline h, hxy.supervisor,
      hxy.line]
  · rw [step_line, step_line, Line.act_of_outline h, hxy.line]

theorem step_registry (x : Session Script) (s : Step) :
    (x.step s).state.supervisor.registry = (x.act s).state.supervisor.registry := by
  rw [step_supervisor, Supervisor.after_append, ← (x.act_comesTo s).1]
  rfl

theorem alike_of_outline_none (x : Session Script) (h : s.outline? = none) :
    (x.step s).state.Alike x := by
  cases s with
  | exit i collected =>
    exact ⟨x.outline_step_supervisor _, (x.step_line _).trans x.line.issueAll_nil⟩
  | _ => cases h

theorem Numbered.outlineTrace_of_outline_none (h : x.Numbered before) (hs : s.outline? = none)
    (later : List Call) : outlineTrace (before ++ s.calls ++ later) (x.step s).trace = [] := by
  rw [h.outline_step_trace]
  cases s with
  | exit i collected => rfl
  | _ => cases hs

/-- What the steps show that do not end a process. -/
def outlines (calls : List Call) (x : Session Script) : List Step → List Outline
  | [] => []
  | s :: rest =>
    (s.outline?.map fun _ => (x.step s).outline calls).toList ++
      (x.step s).state.outlines calls rest

theorem Numbered.outlineTrace_trace (h : x.Numbered before) (steps : List Step) :
    outlineTrace (before ++ steps.flatMap Step.calls) (x.trace steps) =
      (x.outlines (before ++ steps.flatMap Step.calls) steps).flatMap Outline.trace := by
  induction steps generalizing x before with
  | nil => rfl
  | cons s rest ih =>
    have hrest := ih (h.step s)
    rw [List.flatMap_cons, ← List.append_assoc, trace_cons, outlineTrace_append, hrest, outlines,
      List.flatMap_append]
    cases hs : s.outline? with
    | none => rw [h.outlineTrace_of_outline_none hs]; rfl
    | some s' => simp [Turn.outline]

theorem Numbered.outlines_eq (hx : x.Numbered before) (hy : y.Numbered before) (hxy : x.Alike y)
    (steps : List Step) :
    x.outlines (before ++ steps.flatMap Step.calls) steps =
        y.outlines (before ++ steps.flatMap Step.calls) (steps.filterMap Step.outline?) ∧
      (x.run steps).Alike (y.run (steps.filterMap Step.outline?)) := by
  induction steps generalizing x y before with
  | nil => exact ⟨rfl, hxy⟩
  | cons s rest ih =>
    rw [List.flatMap_cons, ← List.append_assoc]
    cases hs : s.outline? with
    | none =>
      have hxs : (x.step s).state.Alike y := (x.alike_of_outline_none hs).trans hxy
      have hys : y.Numbered (before ++ s.calls) := by
        rwa [Step.calls_of_outline_none hs, List.append_nil]
      rw [List.filterMap_cons_none hs, outlines, hs]
      exact ih (hx.step s) hys hxs
    | some s' =>
      have hstep := hx.outline_step hy hxy hs (rest.flatMap Step.calls)
      have hys : (y.step s').state.Numbered (before ++ s.calls) :=
        Step.calls_of_outline hs ▸ hy.step s'
      obtain ⟨houtlines, halike⟩ := ih (hx.step s) hys
        ⟨congrArg Outline.supervisor hstep, congrArg Outline.line hstep⟩
      rw [List.filterMap_cons_some hs, outlines, outlines, hs, Step.outline_outline hs, houtlines]
      exact ⟨congrArg (· ++ _) (congrArg (fun o => [o]) hstep), halike⟩

/-- **Decisions do not depend on how processes end.** Take two sessions whose steps differ only
in the steps that end processes, and in the courses of the processes that are to be launched.
Whatever their steps show is the same, but for the ends of processes, what is told of them, and
the returns of shutdowns. A process that ends leaves every entry of the registry where it is. -/
theorem decisions_do_not_depend_on_exits (g : Settings) {steps steps' : List Step}
    (h : steps.filterMap Step.outline? = steps'.filterMap Step.outline?) :
    let calls := steps.flatMap Step.calls
    let x := (fresh g).run steps
    let x' := (fresh g).run steps'
    steps'.flatMap Step.calls = calls ∧
      (fresh g).outlines calls steps = (fresh g).outlines calls steps' ∧
      outlineTrace calls ((fresh g).trace steps) = outlineTrace calls ((fresh g).trace steps') ∧
      x.Alike x' ∧
      ∀ before s,
        let y := (fresh g).run before
        (y.step s).state.supervisor.registry = (y.act s).state.supervisor.registry ∧
          (s.outline? = none →
            (y.step s).state.supervisor.registry = y.supervisor.registry) := by
  intro calls x x'
  have hfresh := numbered_fresh g
  have hcalls : steps'.flatMap Step.calls = calls := by
    rw [← Step.flatMap_calls_outline, ← h, Step.flatMap_calls_outline]
  obtain ⟨houtlines, halike⟩ := hfresh.outlines_eq hfresh ⟨rfl, rfl⟩ steps
  obtain ⟨houtlines', halike'⟩ := hfresh.outlines_eq hfresh ⟨rfl, rfl⟩ steps'
  have htrace := hfresh.outlineTrace_trace steps
  have htrace' := hfresh.outlineTrace_trace steps'
  simp only [List.nil_append, hcalls] at houtlines houtlines' htrace htrace'
  rw [← h] at houtlines' halike'
  have heq : (fresh g).outlines calls steps = (fresh g).outlines calls steps' :=
    houtlines.trans houtlines'.symm
  refine ⟨hcalls, heq, ?_, halike.trans halike'.symm, fun before s =>
    ⟨step_registry _ s, fun hs => (alike_of_outline_none _ hs).registry⟩⟩
  rw [htrace, htrace', heq]

/-- A start finds its channel taken by a process that has ended, and by one that has not. Only
what tells of the end is not the same. -/
theorem decisions_do_not_depend_on_exits_stale :
    let start : Step := .call (.start "audio" { source := "tone" })
    let steps : List Step :=
      [.script [.succeed .numbered (.after 0 (.status (.exited 3)))], start, start,
        .call (.isRunning "audio")]
    let steps' : List Step :=
      [.script [.succeed .numbered .untilTold], start, start, .call (.isRunning "audio"),
        .exit 0 (.status (.exited 0))]
    let calls := steps.flatMap Step.calls
    steps.filterMap Step.outline? = steps'.filterMap Step.outline? ∧
      outlineTrace calls ((fresh {}).trace steps) = outlineTrace calls ((fresh {}).trace steps') ∧
      .answered 1 (.refused (.alreadyRunning .audio)) ∈ (fresh {}).trace steps ∧
      .answered 2 (.flag false) ∈ (fresh {}).trace steps ∧
      .answered 2 (.flag true) ∈ (fresh {}).trace steps' ∧
      ((fresh {}).run steps).supervisor.registry = ((fresh {}).run steps').supervisor.registry := by
  intro start steps steps' calls
  have h : steps.filterMap Step.outline? = steps'.filterMap Step.outline? := by decide
  obtain ⟨-, -, htrace, halike, -⟩ := decisions_do_not_depend_on_exits {} h
  exact ⟨h, htrace, by decide, by decide, by decide, halike.registry⟩

end Session
end StreamSupervisor
