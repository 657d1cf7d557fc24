import Mathlib.Data.List.Induction
import Mathlib.Data.List.Perm.Basic
import StreamSupervisor.Proofs.Lock.Line
import StreamSupervisor.Proofs.Shutdown.Return

/-! # Every call is accounted for

Each call that was issued either stands in line, or was disposed of by exactly one move;
and what was disposed of was either answered or is a shutdown that waits.
-/

namespace StreamSupervisor

namespace Move

/-- The call that a move disposes of: it is answered, or goes on to wait. -/
def disposed? : Move → Option Nat
  | issue n call => if call.request?.isNone then some n else none
  | serve n _ => some n
  | _ => none

/-- The shutdown that goes on to wait once it was served. -/
def drained? : Move → Option Nat
  | serve n .shutdown => some n
  | _ => none

theorem drained?_eq_some_iff {m : Move} {n : Nat} :
    m.drained? = some n ↔ m = serve n .shutdown := by
  cases m with
  | serve i r => cases r <;> simp [drained?]
  | _ => simp [drained?]

end Move

def answered (trace : List Happening) : List Nat := trace.filterMap fun e => e.answer?.map (·.1)

theorem answered_append (trace trace' : List Happening) :
    answered (trace ++ trace') = answered trace ++ answered trace' := List.filterMap_append

theorem mem_answered {trace : List Happening} {n : Nat} :
    n ∈ answered trace ↔ ∃ a, .answered n a ∈ trace := by
  simp only [answered, List.mem_filterMap, Option.map_eq_some_iff, Prod.exists]
  constructor
  · rintro ⟨e, he, i, a, ha, rfl⟩
    cases e <;> simp only [Happening.answer?, reduceCtorEq, Option.some.injEq, Prod.mk.injEq] at ha
    obtain ⟨rfl, rfl⟩ := ha
    exact ⟨_, he⟩
  · rintro ⟨a, ha⟩
    exact ⟨_, ha, n, a, rfl, rfl⟩

theorem answered_eq_nil {trace : List Happening} (h : ∀ n a, .answered n a ∉ trace) :
    answered trace = [] :=
  List.eq_nil_iff_forall_not_mem.mpr fun n hn => (mem_answered.mp hn).elim (h n)

theorem answered_map_answered (ns : List Nat) (a : Answer) :
    answered (ns.map fun n => .answered n a) = ns := by
  simp [answered, List.filterMap_map, Happening.answer?]

namespace Supervisor

theorem answered_serve (k : Supervisor Script) (r : Request) :
    answered (k.serve r).trace = [] := by
  refine answered_eq_nil fun n a ha => ?_
  rcases mem_serve_trace ha with ⟨_, he⟩ | ⟨_, _, _, _, _, he⟩ <;> cases he

theorem answered_move (k : Supervisor Script) (m : Move) :
    answered (k.move m).2 ++ m.drained?.toList = m.disposed?.toList := by
  cases m with
  | issue n call =>
    rcases Call.check_cases (k.announce call) call with ⟨hr, a, hc⟩ | ⟨r, hr, hc⟩ <;>
      simp [move, hc, hr, answered, Move.drained?, Move.disposed?, Happening.answer?]
  | serve n r =>
    simp only [move, answered_append, answered_serve]
    cases r <;> simp [serve, answered, Move.drained?, Move.disposed?, Happening.answer?]
  | settle =>
    have ha : answered (k.move .settle).2 = [] := answered_eq_nil fun n a ha => by
      rcases answered_of_move ha with ⟨_, hm, -⟩ | ⟨_, hm, -⟩ <;> cases hm
    simp [ha, Move.drained?, Move.disposed?]
  | _ => rfl

theorem answered_trace (k : Supervisor Script) (ms : List Move) :
    (answered (k.trace ms) ++ ms.filterMap Move.drained?).Perm (ms.filterMap Move.disposed?) := by
  induction ms generalizing k with
  | nil => rfl
  | cons m ms ih =>
    have hcons (f : Move → Option Nat) :
        (m :: ms).filterMap f = (f m).toList ++ ms.filterMap f := by
      cases h : f m <;> simp [h]
    rw [trace_cons, answered_append, hcons, hcons, ← k.answered_move m, List.append_assoc,
      List.append_assoc]
    exact ((List.perm_append_comm_assoc _ _ _).trans ((ih _).append_left _)).append_left _

end Supervisor

namespace Line

theorem disposed_callMoves (l : Line) (calls : List Call) :
    ((l.callMoves calls).filterMap Move.disposed? ++ (l.issueAll calls).queue.map (·.1)).Perm
      (l.queue.map (·.1) ++ List.range' l.issued calls.length) := by
  induction calls generalizing l with
  | nil => simp [callMoves]
  | cons call rest ih =>
    have hone : ((l.callMoves [call]).filterMap Move.disposed? ++
        (l.issueAll [call]).queue.map (·.1)).Perm (l.queue.map (·.1) ++ [l.issued]) := by
      cases hr : call.request? <;> cases hh : l.held <;>
        simp [callMoves, issueAll, requestsFrom_cons, Move.disposed?, hr, hh,
          List.perm_append_singleton, List.Perm.symm]
    have hrest := ih (l.issueAll [call])
    rw [← List.singleton_append, callMoves_append, issueAll_append, List.filterMap_append,
      List.append_assoc]
    refine (hrest.append_left _).trans ?_
    rw [← List.append_assoc, List.singleton_append, List.length_cons, List.range'_succ]
    exact (hone.append_right _).trans (by simp [issueAll])

theorem disposed_moves (l : Line) (s : Step) :
    ((l.moves s).filterMap Move.disposed? ++ (l.act s).queue.map (·.1)).Perm
      (l.queue.map (·.1) ++ List.range' l.issued s.calls.length) := by
  cases s with
  | call call => exact l.disposed_callMoves [call]
  | batch calls => exact l.disposed_callMoves calls
  | release => simp [moves, act, Step.calls, List.filterMap_map, Function.comp_def, Move.disposed?]
  | guard call =>
    cases hh : l.held <;> simp [moves, act, Step.calls, List.filterMap_cons, Move.disposed?, hh]
  | _ => simp [moves, act, Step.calls, List.filterMap_cons, Move.disposed?, callMoves]

end Line

namespace Session

theorem perform_draining (x : Session Script) (n : Nat) (r : Request) :
    (x.perform n r).1.draining = x.draining ++ (Move.serve n r).drained?.toList := by
  cases r <;> simp [perform, Supervisor.serve, Move.drained?]

theorem performAll_draining (x : Session Script) (queue : List (Nat × Request)) :
    (x.performAll queue).1.draining =
      x.draining ++ (queue.map fun p => Move.serve p.1 p.2).filterMap Move.drained? := by
  induction queue generalizing x with
  | nil => simp [performAll]
  | cons p rest ih =>
    rw [performAll, ih, perform_draining]
    cases h : (Move.serve p.1 p.2).drained? <;> simp [h]

theorem issue_draining (x : Session Script) (call : Call) :
    (x.issue call).1.draining = x.draining ++ (x.issueMoves call).filterMap Move.drained? := by
  simp only [issue, issueMoves]
  cases (x.supervisor.announce call).check call with
  | answered a => simp [Move.drained?]
  | queued r =>
    simp only
    split
    · simp [Move.drained?]
    · rw [perform_draining, List.filterMap_cons_none rfl]
      cases h : (Move.serve x.issued r).drained? <;> simp [h]

theorem issueAll_draining (x : Session Script) (calls : List Call) :
    (x.issueAll calls).1.draining =
      x.draining ++ (x.issueAllMoves calls).filterMap Move.drained? := by
  induction calls generalizing x with
  | nil => simp [issueAll, issueAllMoves]
  | cons call rest ih => simp [issueAll, issueAllMoves, ih, issue_draining]

theorem act_draining (x : Session Script) (s : Step) :
    (x.act s).state.draining = x.draining ++ (x.actMoves s).filterMap Move.drained? := by
  cases s with
  | call call => exact x.issue_draining call
  | batch calls =>
    cases calls with
    | nil => simp [act, actMoves, issueAllMoves]
    | cons call rest => exact x.issueAll_draining (call :: rest)
  | release => exact performAll_draining _ x.queue
  | guard call =>
    simp only [act, actMoves]
    split <;> simp [Move.drained?]
  | _ => simp [act, actMoves, Move.drained?]

theorem returning_append_draining (x : Session Script) (s : Step) :
    x.returning s ++ (x.step s).state.draining = (x.act s).state.draining := by
  simp only [returning, step, settle]
  split <;> simp [*]

theorem draining_step (x : Session Script) (s : Step) :
    (x.step s).state.draining =
      if (x.step s).state.supervisor.pending = 0 then [] else (x.act s).state.draining := by
  have h := x.returning_append_draining s
  unfold returning at h
  split
  · rw [if_pos ‹_›] at h
    exact List.append_right_eq_self.mp h
  · rw [if_neg ‹_›] at h
    exact h

theorem draining_and_trace_of_no_shutdown {x : Session Script} {steps : List Step}
    (hd : x.draining = []) (hs : ∀ n, .serve n .shutdown ∉ x.moves steps) :
    (x.run steps).draining = [] ∧ x.trace steps = x.supervisor.trace (x.moves steps) := by
  induction steps generalizing x with
  | nil => exact ⟨hd, rfl⟩
  | cons s rest ih =>
    have hact : (x.act s).state.draining = [] := by
      rw [act_draining, hd, List.nil_append, List.filterMap_eq_nil_iff]
      refine fun m hm => Option.eq_none_iff_forall_ne_some.mpr fun n hn => hs n ?_
      exact List.mem_append_left _ (Move.drained?_eq_some_iff.mp hn ▸ hm)
    have hstep : (x.step s).state.draining = [] := by rw [draining_step, hact, ite_self]
    have hret : x.returning s = [] := by simp [returning, hact]
    obtain ⟨hrest, htrace⟩ := ih hstep fun n hn =>
      hs n (List.mem_append_right _ (List.mem_cons_of_mem _ hn))
    refine ⟨hrest, ?_⟩
    rw [trace_cons, htrace, step_trace, hret, List.map_nil, List.append_nil, step_supervisor,
      ← Supervisor.trace_append, Session.moves, ← List.append_cons]

theorem answered_step (x : Session Script) (s : Step) :
    (answered (x.step s).trace ++ (x.step s).state.draining).Perm
      (x.draining ++ (x.actMoves s).filterMap Move.disposed?) := by
  have hsettle : Move.settle.drained? = none ∧ Move.settle.disposed? = none := ⟨rfl, rfl⟩
  have ht := x.supervisor.answered_trace (x.actMoves s ++ [.settle])
  simp only [List.filterMap_append, List.filterMap_cons, hsettle, List.filterMap_nil,
    List.append_nil] at ht
  rw [step_trace, answered_append, answered_map_answered, List.append_assoc,
    returning_append_draining, act_draining]
  exact (List.perm_append_comm_assoc _ _ _).trans (ht.append_left _)

theorem answered_run (x : Session Script) (steps : List Step) :
    (answered (x.trace steps) ++ (x.run steps).draining).Perm
      (x.draining ++ (x.moves steps).filterMap Move.disposed?) := by
  induction steps generalizing x with
  | nil => simp [answered, trace, turns, run, moves]
  | cons s rest ih =>
    have hrun : x.run (s :: rest) = (x.step s).state.run rest := rfl
    rw [trace_cons, answered_append, hrun, moves, List.filterMap_append, List.append_assoc,
      ← List.append_assoc x.draining]
    refine ((ih _).append_left _).trans ?_
    rw [← List.append_assoc]
    exact (x.answered_step s).append_right _

theorem disposed_run (x : Session Script) (steps : List Step) :
    ((x.moves steps).filterMap Move.disposed? ++ (x.run steps).queue.map (·.1)).Perm
      (x.queue.map (·.1) ++ List.range' x.issued (steps.flatMap Step.calls).length) := by
  induction steps generalizing x with
  | nil => simp [run, moves]
  | cons s rest ih =>
    have hline := x.step_line s
    have hrun : x.run (s :: rest) = (x.step s).state.run rest := rfl
    have hissued : (x.step s).state.issued = x.issued + s.calls.length :=
      (congrArg Line.issued hline).trans (x.line.act_issued s)
    rw [hrun, moves, List.filterMap_append, List.append_assoc, List.flatMap_cons,
      List.length_append, ← List.range'_append_1]
    refine ((ih _).append_left _).trans ?_
    rw [← List.append_assoc, ← List.append_assoc, hissued]
    refine List.Perm.append_right _ ?_
    have := x.line.disposed_moves s
    rw [← actMoves_eq, ← hline] at this
    exact this

/-- Each call issued in a session is answered once, or waits for the processes, or is in line. -/
theorem accounted (g : Settings) (steps : List Step) :
    (answered ((fresh g).trace steps) ++ (((fresh g).run steps).draining ++
      ((fresh g).run steps).queue.map (·.1))).Perm
      (List.range (steps.flatMap Step.calls).length) := by
  have ha := (fresh g).answered_run steps
  have hd := (fresh g).disposed_run steps
  rw [← List.append_assoc, List.range_eq_range']
  exact (ha.append_right _).trans hd

theorem serve_mem_moves_of_draining {x : Session Script} {steps : List Step} {n : Nat}
    (h : n ∈ (x.run steps).draining) :
    n ∈ x.draining ∨ .serve n .shutdown ∈ x.moves steps := by
  induction steps generalizing x with
  | nil => exact .inl h
  | cons s rest ih =>
    rcases ih h with hn | hn
    · have hact : n ∈ (x.act s).state.draining := by
        rw [← returning_append_draining]
        exact List.mem_append_right _ hn
      rw [act_draining, List.mem_append, List.mem_filterMap] at hact
      refine hact.imp id ?_
      rintro ⟨m, hm, hd⟩
      rw [← Move.drained?_eq_some_iff.mp hd]
      exact List.mem_append_left _ hm
    · exact .inr (List.mem_append_right _ (List.mem_cons_of_mem _ hn))

theorem draining_of_serve_mem_moves {g : Settings} {steps : List Step} {n : Nat}
    (h : .serve n .shutdown ∈ (fresh g).moves steps)
    (ha : ∀ a, .answered n a ∉ (fresh g).trace steps) : n ∈ ((fresh g).run steps).draining := by
  have hn : n ∈ (fresh g).draining ++ ((fresh g).moves steps).filterMap Move.disposed? :=
    List.mem_append_right _ (List.mem_filterMap.mpr ⟨_, h, rfl⟩)
  rcases List.mem_append.mp (((fresh g).answered_run steps).mem_iff.mpr hn) with hn | hn
  · exact ((mem_answered.mp hn).elim ha).elim
  · exact hn

theorem pending_ne_zero_of_draining {g : Settings} {steps : List Step} {n : Nat}
    (h : n ∈ ((fresh g).run steps).draining) : ((fresh g).run steps).supervisor.pending ≠ 0 := by
  cases steps using List.reverseRecOn with
  | nil => cases h
  | append_singleton before s =>
    intro hp
    rw [run_append] at h hp
    simp only [run, List.foldl_cons, List.foldl_nil] at h hp
    rw [draining_step, if_pos hp] at h
    cases h

end Session
end StreamSupervisor
