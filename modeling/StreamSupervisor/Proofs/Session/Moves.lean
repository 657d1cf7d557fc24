import StreamSupervisor.Session.Step

/-! # Moves of a session

Whatever a session does to its supervisor is a sequence of moves, each of which has the
supervisor to itself. The session after some steps has the supervisor after their moves,
and what happened is what happened in the moves, and that shutdowns returned.
-/

namespace StreamSupervisor

inductive Move where
  /-- A call is issued: it is announced, and goes through its checks. -/
  | issue (number : Nat) (call : Call)
  /-- A request gets the registry. -/
  | serve (number : Nat) (request : Request)
  | script (launches : List ScriptedLaunch)
  | tell (process : Nat) (collected : Collected)
  | guard (call : GuardCall)
  /-- Every process that can end does so. -/
  | settle
deriving DecidableEq, Repr

def Step.calls : Step → List Call
  | .call c => [c]
  | .batch cs => cs
  | _ => []

namespace Supervisor

def move (k : Supervisor Script) : Move → Supervisor Script × List Happening
  | .issue n call =>
    (k.announce call,
      match (k.announce call).check call with
      | .answered a => [.answered n a]
      | .queued _ => [])
  | .serve n r =>
    let t := k.serve r
    (t.state, t.trace ++ (t.answer.map (Happening.answered n)).toList)
  | .script launches => ({ k with launcher := k.launcher.append launches }, [])
  | .tell i collected => ((k.tell i collected).state, [])
  | .guard call => ((k.guardStep call).1, [])
  | .settle => ((k.settle 0).state, (k.settle 0).trace)

def after (k : Supervisor Script) (moves : List Move) : Supervisor Script :=
  moves.foldl (fun k m => (k.move m).1) k

def trace (k : Supervisor Script) : List Move → List Happening
  | [] => []
  | m :: moves => (k.move m).2 ++ (k.move m).1.trace moves

section Runs

variable {k : Supervisor Script} {ms : List Move}

@[simp] theorem after_nil (k : Supervisor Script) : k.after [] = k := rfl

@[simp] theorem after_cons (k : Supervisor Script) (m : Move) (ms : List Move) :
    k.after (m :: ms) = (k.move m).1.after ms := rfl

@[simp] theorem after_append (k : Supervisor Script) (ms ms' : List Move) :
    k.after (ms ++ ms') = (k.after ms).after ms' := List.foldl_append

@[simp] theorem trace_nil (k : Supervisor Script) : k.trace [] = [] := rfl

@[simp] theorem trace_cons (k : Supervisor Script) (m : Move) (ms : List Move) :
    k.trace (m :: ms) = (k.move m).2 ++ (k.move m).1.trace ms := rfl

@[simp] theorem trace_append (k : Supervisor Script) (ms ms' : List Move) :
    k.trace (ms ++ ms') = k.trace ms ++ (k.after ms).trace ms' := by
  induction ms generalizing k with
  | nil => rfl
  | cons m ms ih => simp [ih]

theorem after_induction {P : Supervisor Script → Prop} (hk : P k)
    (step : ∀ m ∈ ms, ∀ k, P k → P (k.move m).1) : P (k.after ms) := by
  induction ms generalizing k with
  | nil => exact hk
  | cons m ms ih =>
    exact ih (step m List.mem_cons_self k hk) fun m hm => step m (List.mem_cons_of_mem _ hm)

/-- There is a move among some moves that finds the supervisor so. -/
def Sometime (k : Supervisor Script) (ms : List Move) (P : Supervisor Script → Move → Prop) :
    Prop :=
  ∃ before m rest, ms = before ++ m :: rest ∧ P (k.after before) m

theorem not_sometime_nil {P : Supervisor Script → Move → Prop} : ¬ k.Sometime [] P := by
  rintro ⟨before, m, rest, h, -⟩
  simp at h

theorem sometime_cons_iff {P : Supervisor Script → Move → Prop} {m : Move} :
    k.Sometime (m :: ms) P ↔ P k m ∨ (k.move m).1.Sometime ms P := by
  constructor
  · rintro ⟨before, n, rest, h, hn⟩
    cases before with
    | nil =>
      obtain ⟨rfl, -⟩ := List.cons.inj h
      exact .inl hn
    | cons m' before =>
      obtain ⟨rfl, rfl⟩ := List.cons.inj h
      exact .inr ⟨before, n, rest, rfl, hn⟩
  · rintro (h | ⟨before, n, rest, rfl, hn⟩)
    · exact ⟨[], m, ms, rfl, h⟩
    · exact ⟨m :: before, n, rest, rfl, hn⟩

theorem sometime_append_iff {P : Supervisor Script → Move → Prop} {ms' : List Move} :
    k.Sometime (ms ++ ms') P ↔ k.Sometime ms P ∨ (k.after ms).Sometime ms' P := by
  induction ms generalizing k with
  | nil => simp [not_sometime_nil]
  | cons m ms ih => simp [sometime_cons_iff, ih, or_assoc]

theorem mem_trace_iff {e : Happening} :
    e ∈ k.trace ms ↔ k.Sometime ms fun k m => e ∈ (k.move m).2 := by
  induction ms generalizing k with
  | nil => simp [not_sometime_nil]
  | cons m ms ih => simp [sometime_cons_iff, ih]

end Runs

end Supervisor

namespace Session

def issueMoves (x : Session Script) (call : Call) : List Move :=
  .issue x.issued call ::
    match (x.supervisor.announce call).check call with
    | .answered _ => []
    | .queued r => if x.held then [] else [.serve x.issued r]

def issueAllMoves (x : Session Script) : List Call → List Move
  | [] => []
  | call :: rest => x.issueMoves call ++ (x.issue call).1.issueAllMoves rest

def actMoves (x : Session Script) : Step → List Move
  | .call call => x.issueMoves call
  | .batch calls => x.issueAllMoves calls
  | .script launches => [.script launches]
  | .exit i collected => [.tell i collected]
  | .hold => []
  | .release => x.queue.map fun p => .serve p.1 p.2
  | .guard call => if x.held then [.guard call] else []

def moves (x : Session Script) : List Step → List Move
  | [] => []
  | s :: rest => x.actMoves s ++ .settle :: (x.step s).state.moves rest

def trace (x : Session Script) (steps : List Step) : List Happening :=
  (x.turns steps).flatMap (·.trace)

/-! ### Steps as moves -/

/-- A piece of a session comes to some moves: they lead to its supervisor, with its trace. -/
def ComesTo (x : Session Script) (y : Session Script × List Happening) (ms : List Move) : Prop :=
  y.1.supervisor = x.supervisor.after ms ∧ y.2 = x.supervisor.trace ms

theorem ComesTo.append {x : Session Script} {y z : Session Script × List Happening}
    {ms ms' : List Move} (h : x.ComesTo y ms) (h' : y.1.ComesTo z ms') :
    x.ComesTo (z.1, y.2 ++ z.2) (ms ++ ms') := by
  obtain ⟨hs, ht⟩ := h
  obtain ⟨hs', ht'⟩ := h'
  rw [hs] at hs' ht'
  exact ⟨by simpa using hs', by simp [ht, ht']⟩

theorem perform_comesTo (x : Session Script) (n : Nat) (r : Request) :
    x.ComesTo (x.perform n r) [.serve n r] := by
  simp only [ComesTo, perform, Supervisor.after_cons, Supervisor.after_nil, Supervisor.trace_cons,
    Supervisor.trace_nil, List.append_nil, Supervisor.move]
  cases (x.supervisor.serve r).answer <;> simp

theorem performAll_comesTo (x : Session Script) (queue : List (Nat × Request)) :
    x.ComesTo (x.performAll queue) (queue.map fun p => .serve p.1 p.2) := by
  induction queue generalizing x with
  | nil => exact ⟨rfl, rfl⟩
  | cons p rest ih => exact (x.perform_comesTo p.1 p.2).append (ih _)

theorem issue_comesTo (x : Session Script) (call : Call) :
    x.ComesTo (x.issue call) (x.issueMoves call) := by
  have hm {y : Session Script} {e : List Happening}
      (hy : y.supervisor = x.supervisor.announce call)
      (he : e = (x.supervisor.move (.issue x.issued call)).2) :
      x.ComesTo (y, e) [.issue x.issued call] := ⟨hy, by simp [he]⟩
  simp only [issue, issueMoves]
  cases hc : (x.supervisor.announce call).check call with
  | answered a => exact hm rfl (by simp [Supervisor.move, hc])
  | queued r =>
    have he : [] = (x.supervisor.move (.issue x.issued call)).2 := by simp [Supervisor.move, hc]
    simp only
    split
    · exact hm rfl he
    · exact (hm rfl he).append (perform_comesTo _ _ _)

theorem issueAll_comesTo (x : Session Script) (calls : List Call) :
    x.ComesTo (x.issueAll calls) (x.issueAllMoves calls) := by
  induction calls generalizing x with
  | nil => exact ⟨rfl, rfl⟩
  | cons call rest ih => exact (x.issue_comesTo call).append (ih _)

theorem act_comesTo (x : Session Script) (s : Step) :
    x.ComesTo ((x.act s).state, (x.act s).trace) (x.actMoves s) := by
  cases s with
  | call call => exact x.issue_comesTo call
  | batch calls =>
    cases calls with
    | nil => exact ⟨rfl, rfl⟩
    | cons call rest => exact x.issueAll_comesTo (call :: rest)
  | script launches => exact ⟨rfl, rfl⟩
  | exit i collected =>
    refine ⟨rfl, ?_⟩
    simp only [act, actMoves, Supervisor.tell, Supervisor.trace_cons, Supervisor.move]
    split <;> rfl
  | hold => exact ⟨rfl, rfl⟩
  | release => exact performAll_comesTo { x with held := false, queue := [] } x.queue
  | guard call =>
    simp only [act, actMoves]
    split <;> exact ⟨rfl, rfl⟩

/-- The shutdowns that return at the end of a step. -/
def returning (x : Session Script) (s : Step) : List Nat :=
  if (x.step s).state.supervisor.pending = 0 then (x.act s).state.draining else []

theorem settle_supervisor (x : Session Script) :
    (x.settle 0).1.supervisor = (x.supervisor.move .settle).1 := by
  simp only [settle, Supervisor.move]
  split <;> rfl

theorem step_supervisor (x : Session Script) (s : Step) :
    (x.step s).state.supervisor = x.supervisor.after (x.actMoves s ++ [.settle]) := by
  rw [Supervisor.after_append, ← (x.act_comesTo s).1]
  exact (x.act s).state.settle_supervisor

theorem step_trace (x : Session Script) (s : Step) :
    (x.step s).trace = x.supervisor.trace (x.actMoves s ++ [.settle]) ++
      (x.returning s).map fun n => .answered n .done := by
  have hs := (x.act s).state.settle_supervisor
  simp only [returning, step, Supervisor.trace_append, ← (x.act_comesTo s).1,
    ← (x.act_comesTo s).2, hs]
  simp only [settle, Supervisor.trace_cons, Supervisor.trace_nil, Supervisor.move]
  split <;> simp [*]

theorem run_supervisor (x : Session Script) (steps : List Step) :
    (x.run steps).supervisor = x.supervisor.after (x.moves steps) := by
  induction steps generalizing x with
  | nil => rfl
  | cons s rest ih =>
    rw [show x.run (s :: rest) = (x.step s).state.run rest from rfl, ih, step_supervisor, moves]
    simp

theorem moves_append (x : Session Script) (steps later : List Step) :
    x.moves (steps ++ later) = x.moves steps ++ (x.run steps).moves later := by
  induction steps generalizing x with
  | nil => rfl
  | cons s rest ih =>
    simp only [List.cons_append, moves, List.append_assoc]
    rw [ih]
    rfl

@[simp] theorem trace_cons (x : Session Script) (s : Step) (rest : List Step) :
    x.trace (s :: rest) = (x.step s).trace ++ (x.step s).state.trace rest := rfl

theorem filter_trace (x : Session Script) (steps : List Step) :
    (x.trace steps).filter (·.answer?.isNone) =
      (x.supervisor.trace (x.moves steps)).filter (·.answer?.isNone) := by
  induction steps generalizing x with
  | nil => rfl
  | cons s rest ih =>
    have hr : ((x.returning s).map fun n => Happening.answered n .done).filter
        (·.answer?.isNone) = [] := by
      simp [Happening.answer?]
    rw [trace_cons, List.filter_append, ih, step_trace, List.filter_append, hr, List.append_nil,
      step_supervisor, ← List.filter_append, ← Supervisor.trace_append, moves, List.append_assoc]
    rfl

theorem filterMap_trace {α : Type} {f : Happening → Option α} (hf : ∀ n a, f (.answered n a) = none)
    (x : Session Script) (steps : List Step) :
    (x.trace steps).filterMap f = (x.supervisor.trace (x.moves steps)).filterMap f := by
  have hfilter (trace : List Happening) : trace.filterMap f =
      (trace.filter (·.answer?.isNone)).filterMap f := by
    rw [List.filterMap_filter]
    congr 1
    funext e
    cases e with
    | answered n a => exact hf n a
    | _ => rfl
  rw [hfilter, filter_trace, ← hfilter]

theorem mem_trace_iff {x : Session Script} {steps : List Step} {e : Happening}
    (he : e.answer? = none) :
    e ∈ x.trace steps ↔ e ∈ x.supervisor.trace (x.moves steps) := by
  have hf (trace : List Happening) : e ∈ trace ↔ e ∈ trace.filter (·.answer?.isNone) := by
    simp [List.mem_filter, he]
  rw [hf, filter_trace, ← hf]

/-- Where something happens in some steps: in one of them, after what came before in that step and
in the steps before it. -/
theorem step_of_trace {x : Session Script} {steps : List Step} {before rest : List Happening}
    {e : Happening} (h : x.trace steps = before ++ e :: rest) :
    ∃ done s later early late, steps = done ++ s :: later ∧ before = x.trace done ++ early ∧
      ((x.run done).step s).trace = early ++ e :: late := by
  induction steps generalizing x before with
  | nil => simp [trace, turns] at h
  | cons s tail ih =>
    have further {early : List Happening} (hbefore : before = (x.step s).trace ++ early)
        (htail : (x.step s).state.trace tail = early ++ e :: rest) :
        ∃ done s' later early late, s :: tail = done ++ s' :: later ∧
          before = x.trace done ++ early ∧ ((x.run done).step s').trace = early ++ e :: late := by
      obtain ⟨done, s', later, early, late, rfl, rfl, hstep⟩ := ih htail
      exact ⟨s :: done, s', later, early, late, rfl, by rw [hbefore, trace_cons, List.append_assoc],
        hstep⟩
    rw [trace_cons] at h
    rcases List.append_eq_append_iff.mp h with ⟨early, hbefore, htail⟩ | ⟨late, hstep, hrest⟩
    · exact further hbefore htail
    · cases late with
      | nil =>
        have htail : (x.step s).state.trace tail = [] ++ e :: rest := hrest.symm
        exact further (by rw [hstep, List.append_nil, List.append_nil]) htail
      | cons e' late =>
        obtain ⟨rfl, -⟩ := List.cons.inj hrest
        exact ⟨[], s, tail, before, late, rfl, rfl, hstep⟩

theorem mem_trace_iff_step {x : Session Script} {steps : List Step} {e : Happening} :
    e ∈ x.trace steps ↔
      ∃ before s rest, steps = before ++ s :: rest ∧ e ∈ ((x.run before).step s).trace := by
  constructor
  · intro h
    obtain ⟨before, rest, ht⟩ := List.append_of_mem h
    obtain ⟨done, s, later, early, late, hsteps, -, hstep⟩ := step_of_trace ht
    exact ⟨done, s, later, hsteps, hstep ▸ List.mem_append_right _ List.mem_cons_self⟩
  · rintro ⟨before, s, rest, rfl, h⟩
    induction before generalizing x with
    | nil => exact List.mem_append_left _ h
    | cons s' before ih => exact List.mem_append_right _ (ih h)

end Session
end StreamSupervisor
