import StreamSupervisor.Proofs.Ending.Course
import StreamSupervisor.Proofs.Lock.Progress

/-! # Having one's turn

Calls that need the registry are served at once if it is free, and if it is held they are
served, after those in line, when it is given back. Either way they find the supervisor as
those before them leave it, and are served one after the other before any process ends.
-/

namespace StreamSupervisor

/-- The moves that serve some calls, which are numbered from `n` on. -/
def serves (n : Nat) (calls : List Call) : List Move :=
  (requestsFrom n calls).map fun p => .serve p.1 p.2

/-- A call that needs the registry and does not wait for processes. -/
def Call.Asking (call : Call) : Prop := call ≠ .shutdown ∧ call.request?.isSome = true

theorem Call.Asking.request_ne_shutdown {call : Call} (h : call.Asking) :
    call.request? ≠ some .shutdown :=
  fun hr => h.1 (Call.eq_shutdown_of_asks (Call.asks_iff.mpr hr))

theorem serves_cons {n : Nat} {call : Call} {r : Request} (hr : call.request? = some r)
    (rest : List Call) : serves n (call :: rest) = .serve n r :: serves (n + 1) rest := by
  simp [serves, requestsFrom_cons, hr]

theorem serves_start {key : String} {c : Channel} {s : StreamSpec}
    (hkey : Channel.ofKey? key = some c) (hs : s.complaint? = none) (n : Nat) (rest : List Call) :
    serves n (.start key s :: rest) = .serve n (.start c s) :: serves (n + 1) rest :=
  serves_cons (by simp [Call.request?, hkey, hs]) rest

theorem serves_stop {key : String} {c : Channel} (hkey : Channel.ofKey? key = some c) (n : Nat)
    (rest : List Call) :
    serves n (.stop key :: rest) = .serve n (.stop c) :: serves (n + 1) rest :=
  serves_cons (by simp [Call.request?, hkey]) rest

namespace Supervisor

variable {k : Supervisor Script} {n : Nat} {call : Call} {calls : List Call} {c : Channel}
  {e : Entry} {s : StreamSpec}

theorem move_stop (he : k.registry.get c = some e) :
    k.move (.serve n (.stop c)) =
      (k.dismiss c e, [.logged (.stopRequested c e.pid), .answered n .done]) := by
  simp [move, serve, stop, he, Answer.ofResult]

theorem move_start_of_free (hopen : k.shutDown = false) (hc : k.registry.get c = none) :
    k.move (.serve n (.start c s)) = ((k.launch c s).state,
      (k.launch c s).trace ++ [.answered n (.ofResult (k.launch c s).answer)]) := by
  simp only [move, serve, start_of_free hopen hc, Option.map_some, Option.toList_some]

theorem move_issue (h : call.Asking) (k : Supervisor Script) (n : Nat) :
    k.move (.issue n call) = (k, []) := by
  obtain ⟨r, hr⟩ := Option.isSome_iff_exists.mp h.2
  simp only [move, announce_of_ne_shutdown h.1, Call.check_eq_queued_iff.mpr hr]

theorem issue_of_free {l : Line} (hl : l.held = false) (hc : ∀ call ∈ calls, call.Asking) :
    k.after (l.callMoves calls) = k.after (serves l.issued calls) ∧
      k.trace (l.callMoves calls) = k.trace (serves l.issued calls) := by
  induction calls generalizing l k with
  | nil => exact ⟨rfl, rfl⟩
  | cons call rest ih =>
    obtain ⟨hcall, hrest⟩ := List.forall_mem_cons.mp hc
    obtain ⟨r, hr⟩ := Option.isSome_iff_exists.mp hcall.2
    have hone : l.callMoves [call] = [.issue l.issued call, .serve l.issued r] := by
      simp [Line.callMoves, hl, hr]
    obtain ⟨hafter, htrace⟩ := ih (l := l.issueAll [call]) (k := (k.move (.serve l.issued r)).1)
      hl hrest
    rw [← List.singleton_append, Line.callMoves_append, hone, List.singleton_append,
      serves_cons hr]
    simp only [after_append, trace_append, after_cons, trace_cons, after_nil, trace_nil,
      move_issue hcall, List.nil_append, List.append_nil, hafter, htrace]
    exact ⟨rfl, rfl⟩

theorem issue_of_held {l : Line} (hl : l.held = true) (hc : ∀ call ∈ calls, call.Asking) :
    k.after (l.callMoves calls) = k ∧ k.trace (l.callMoves calls) = [] := by
  induction calls generalizing l with
  | nil => exact ⟨rfl, rfl⟩
  | cons call rest ih =>
    obtain ⟨hcall, hrest⟩ := List.forall_mem_cons.mp hc
    have hone : l.callMoves [call] = [.issue l.issued call] := by simp [Line.callMoves, hl]
    obtain ⟨hafter, htrace⟩ := ih (l := l.issueAll [call]) hl hrest
    rw [← List.singleton_append, Line.callMoves_append, hone]
    simp only [List.singleton_append, after_cons, trace_cons, move_issue hcall, List.nil_append]
    exact ⟨hafter, htrace⟩

end Supervisor

namespace Session

variable {x : Session Script} {calls : List Call}

/-- The supervisor as those in line leave it, which is how the next call finds it. -/
def atTurn (x : Session Script) : Supervisor Script :=
  x.supervisor.after (x.queue.map fun p => .serve p.1 p.2)

/-- What happens while those in line are served. -/
def ahead (x : Session Script) : List Happening :=
  x.supervisor.trace (x.queue.map fun p => .serve p.1 p.2)

/-- The shutdowns that wait for processes once those in line are served. -/
def drainers (x : Session Script) : List Nat :=
  x.draining ++ (x.queue.map fun p => Move.serve p.1 p.2).filterMap Move.drained?

/-- A step, and the release right after it if the registry is held. -/
def carryOut (x : Session Script) (s : Step) : Turn (Session Script) StepAnswer :=
  let t := x.step s
  if x.held then
    let u := t.state.step .release
    ⟨u.state, t.trace ++ u.trace, t.answer⟩
  else t

theorem carryOut_call (x : Session Script) (call : Call) :
    x.carryOut (.call call) = x.carryOut (.batch [call]) := by
  have hstep : x.step (.call call) = x.step (.batch [call]) := by
    simp [step, act, issueAll]
  simp only [carryOut, hstep]

theorem carryOut_answer (x : Session Script) (call : Call) (rest : List Call) :
    (x.carryOut (.batch (call :: rest))).answer = .none := by
  rw [carryOut]
  split <;> rfl

theorem carryOut_state (x : Session Script) (s : Step) :
    ∃ later, (x.carryOut s).state = x.run (s :: later) := by
  rw [carryOut]
  split
  · exact ⟨[.release], rfl⟩
  · exact ⟨[], rfl⟩

/-- What happens when things settle after those in line were served: processes end, and if none
is alive then whoever waits for them is answered. -/
def closing (x : Session Script) (k : Supervisor Script) : List Happening :=
  (k.move .settle).2 ++
    (if (k.move .settle).1.pending = 0 then x.drainers else []).map fun n => .answered n .done

/-- Calls have had their turn: they were served one after the other, after those in line, and
then things settled. -/
structure Served (x : Session Script) (calls : List Call)
    (t : Turn (Session Script) StepAnswer) : Prop where
  supervisor : t.state.supervisor = ((x.atTurn.after (serves x.issued calls)).move .settle).1
  draining : t.state.draining = if t.state.supervisor.pending = 0 then [] else x.drainers
  line : t.state.line = ⟨false, [], x.issued + calls.length⟩
  trace : t.trace = x.ahead ++ (x.atTurn.trace (serves x.issued calls) ++
    x.closing (x.atTurn.after (serves x.issued calls)))

theorem served_step {y : Session Script} {s : Step}
    (hafter : y.supervisor.after (y.actMoves s) = x.atTurn.after (serves x.issued calls))
    (htrace : y.supervisor.trace (y.actMoves s) =
      x.ahead ++ x.atTurn.trace (serves x.issued calls))
    (hdraining : (y.act s).state.draining = x.drainers)
    (hline : y.line.act s = ⟨false, [], x.issued + calls.length⟩) : x.Served calls (y.step s) := by
  have hsup : (y.step s).state.supervisor =
      ((x.atTurn.after (serves x.issued calls)).move .settle).1 := by
    rw [step_supervisor, Supervisor.after_append, hafter]
    rfl
  refine ⟨hsup, by rw [draining_step, hdraining], (y.step_line s).trans hline, ?_⟩
  rw [step_trace, Supervisor.trace_append, hafter, htrace, returning, hdraining, hsup, closing]
  simp only [Supervisor.trace_cons, Supervisor.trace_nil, List.append_nil, List.append_assoc]

theorem Served.state_eq {calls' : List Call} {t u : Turn (Session Script) StepAnswer}
    (ht : x.Served calls t) (hu : x.Served calls' u)
    (hp : t.state.supervisor.pending = u.state.supervisor.pending) :
    t.state = { u.state with
      supervisor := t.state.supervisor, issued := x.issued + calls.length } := by
  have hdraining : t.state.draining = u.state.draining := by rw [ht.draining, hu.draining, hp]
  obtain ⟨hheld, hqueue, hissued⟩ := Line.mk.inj ht.line
  obtain ⟨hheld', hqueue', -⟩ := Line.mk.inj hu.line
  generalize t.state = y at *
  cases y
  simp_all

theorem launch_closing (x : Session Script) (k : Supervisor Script) :
    (x.closing k).filterMap Happening.launch? = [] := by
  refine List.filterMap_eq_nil_iff.mpr fun e he => ?_
  rcases List.mem_append.mp he with he | he
  · obtain ⟨p, -, hp⟩ := List.mem_filterMap.mp he
    obtain ⟨event, -, rfl⟩ := Option.map_eq_some_iff.mp hp
    rfl
  · obtain ⟨n, -, rfl⟩ := List.mem_map.mp he
    rfl

theorem drained_serves (hc : ∀ call ∈ calls, call.Asking) (n : Nat) :
    (serves n calls).filterMap Move.drained? = [] := by
  refine List.filterMap_eq_nil_iff.mpr fun m hm => Option.eq_none_iff_forall_ne_some.mpr ?_
  rintro i hi
  obtain ⟨⟨j, r⟩, hp, rfl⟩ := List.mem_map.mp hm
  obtain ⟨call, -, hcall, hr⟩ := mem_requestsFrom.mp hp
  obtain ⟨-, rfl⟩ := Move.serve.inj (Move.drained?_eq_some_iff.mp hi)
  exact (hc call (List.mem_of_getElem? hcall)).request_ne_shutdown hr

theorem drained_callMoves (hc : ∀ call ∈ calls, call.Asking) (l : Line) :
    (l.callMoves calls).filterMap Move.drained? = [] := by
  refine List.filterMap_eq_nil_iff.mpr fun m hm => Option.eq_none_iff_forall_ne_some.mpr ?_
  rintro i hi
  rw [Move.drained?_eq_some_iff.mp hi] at hm
  obtain ⟨⟨call, j⟩, hp, hm⟩ := List.mem_flatMap.mp hm
  rcases List.mem_cons.mp hm with hm | hm
  · cases hm
  · split at hm
    · cases hm
    · obtain ⟨r, hr, hm⟩ := Option.map_eq_some_iff.mp (Option.mem_toList.mp hm)
      obtain ⟨-, rfl⟩ := Move.serve.inj hm
      exact (hc call (List.fst_mem_of_mem_zipIdx hp)).request_ne_shutdown hr

theorem draining_of_pending (g : Settings) (steps : List Step) :
    let x := (fresh g).run steps
    (if x.supervisor.pending = 0 then [] else x.draining) = x.draining ∧
      (if x.supervisor.pending = 0 then x.draining else []) = [] := by
  intro x
  split
  · have hnone : x.draining = [] := List.eq_nil_iff_forall_not_mem.mpr fun n hn =>
      pending_ne_zero_of_draining hn ‹_›
    exact ⟨hnone.symm, hnone⟩
  · exact ⟨rfl, rfl⟩

theorem atTurn_of_free (g : Settings) (steps : List Step)
    (hheld : ((fresh g).run steps).held = false) :
    let x := (fresh g).run steps
    x.queue = [] ∧ x.atTurn = x.supervisor ∧ x.ahead = [] ∧ x.drainers = x.draining := by
  intro x
  have hqueue : x.queue = [] := idle_run g steps hheld
  simp [atTurn, ahead, drainers, hqueue]

theorem step_batch_of_held (g : Settings) (steps : List Step)
    (hc : ∀ call ∈ calls, call.Asking) (hheld : ((fresh g).run steps).held = true) :
    let x := (fresh g).run steps
    let t := x.step (.batch calls)
    t.state.supervisor = x.supervisor ∧ t.state.draining = x.draining ∧ t.trace = [] ∧
      t.state.line = x.line.issueAll calls := by
  intro x t
  have hmoves : x.actMoves (.batch calls) = x.line.callMoves calls := x.actMoves_eq _
  obtain ⟨hafter, htrace⟩ := Supervisor.issue_of_held (k := x.supervisor) (l := x.line) hheld hc
  have hsettle : x.supervisor.move .settle = (x.supervisor, []) := (settled_run g steps).move_settle
  have hsame : t.state.supervisor = x.supervisor := by
    rw [step_supervisor, hmoves, Supervisor.after_append, hafter, Supervisor.after_cons, hsettle]
    rfl
  have hact : (x.act (.batch calls)).state.draining = x.draining := by
    rw [act_draining, hmoves, drained_callMoves hc, List.append_nil]
  obtain ⟨hdrain, hnone⟩ := draining_of_pending g steps
  have hreturn : x.returning (.batch calls) = [] := by rw [returning, hsame, hact, hnone]
  refine ⟨hsame, ?_, ?_, x.step_line _⟩
  · rw [draining_step, hsame, hact, hdrain]
  · rw [step_trace, hmoves, Supervisor.trace_append, hafter, htrace, Supervisor.trace_cons,
      hsettle, hreturn]
    rfl

theorem served_carryOut (g : Settings) (steps : List Step) (hc : ∀ call ∈ calls, call.Asking) :
    ((fresh g).run steps).Served calls (((fresh g).run steps).carryOut (.batch calls)) := by
  cases hheld : ((fresh g).run steps).held with
  | false =>
    obtain ⟨hqueue, hturn, hahead, hdrainers⟩ := atTurn_of_free g steps hheld
    generalize (fresh g).run steps = x at hheld hqueue hturn hahead hdrainers ⊢
    have hmoves : x.actMoves (.batch calls) = x.line.callMoves calls := x.actMoves_eq _
    obtain ⟨hafter, htrace⟩ := Supervisor.issue_of_free (k := x.supervisor) (l := x.line) hheld hc
    rw [carryOut, hheld, if_neg Bool.false_ne_true]
    refine served_step ?_ ?_ ?_ ?_
    · rw [hmoves, hafter, hturn]
      rfl
    · rw [hmoves, htrace, hturn, hahead]
      rfl
    · rw [act_draining, hmoves, drained_callMoves hc, List.append_nil, hdrainers]
    · simp [Line.act, Step.calls, Line.issueAll, line, hheld, hqueue]
  | true =>
    obtain ⟨hsame, hdraining, hnone, hline⟩ := step_batch_of_held g steps hc hheld
    generalize (fresh g).run steps = x at hheld hsame hdraining hnone hline ⊢
    have hqueue : (x.step (.batch calls)).state.queue =
        x.queue ++ requestsFrom x.issued calls := by
      simpa [line, Line.issueAll, hheld] using congrArg Line.queue hline
    have hissued : (x.step (.batch calls)).state.issued = x.issued + calls.length :=
      congrArg Line.issued hline
    have hserves : (x.step (.batch calls)).state.actMoves .release =
        (x.queue.map fun p => .serve p.1 p.2) ++ serves x.issued calls := by
      simp [actMoves, hqueue, serves]
    have hserved : x.Served calls ((x.step (.batch calls)).state.step .release) := by
      refine served_step ?_ ?_ ?_ ?_
      · rw [hserves, Supervisor.after_append, hsame]
        rfl
      · rw [hserves, Supervisor.trace_append, hsame]
        rfl
      · rw [act_draining, hserves, List.filterMap_append, drained_serves hc, List.append_nil,
          hdraining]
        rfl
      · simp [Line.act, line, hissued]
    simp only [carryOut, hheld, if_true, hnone, List.nil_append]
    exact ⟨hserved.supervisor, hserved.draining, hserved.line, hserved.trace⟩

theorem served_call (g : Settings) (steps : List Step) {call : Call} (hcall : call.Asking) :
    ((fresh g).run steps).Served [call] (((fresh g).run steps).carryOut (.call call)) := by
  rw [carryOut_call]
  exact served_carryOut g steps (List.forall_mem_singleton.mpr hcall)

theorem settle_of_rest (g : Settings) (steps : List Step) {y : Session Script}
    (hs : y.supervisor = ((fresh g).run steps).supervisor)
    (hd : y.draining = ((fresh g).run steps).draining) : y.settle 0 = (y, []) := by
  have hsettle : y.supervisor.move .settle = (y.supervisor, []) :=
    hs ▸ (settled_run g steps).move_settle
  obtain ⟨hstate, htrace⟩ := Prod.mk.inj hsettle
  obtain ⟨hdrain, hnone⟩ := draining_of_pending g steps
  rw [← hs, ← hd] at hdrain hnone
  simp only [settle, hstate, htrace]
  split
  · rename_i hp
    rw [if_pos hp] at hdrain hnone
    cases y
    simp_all
  · rfl

theorem step_of_answered (g : Settings) (steps : List Step) {call : Call} {a : Answer}
    (hcall : call ≠ .shutdown) (ha : ((fresh g).run steps).supervisor.check call = .answered a) :
    let x := (fresh g).run steps
    x.step (.call call) = ⟨{ x with issued := x.issued + 1 }, [.answered x.issued a], .none⟩ := by
  intro x
  have hact : x.act (.call call) =
      ⟨{ x with issued := x.issued + 1 }, [.answered x.issued a], .none⟩ := by
    simp only [act, issue_of_answered hcall ha, x]
  have hsettle : ({ x with issued := x.issued + 1 } : Session Script).settle 0 = _ :=
    settle_of_rest g steps rfl rfl
  simp only [step, hact, hsettle, List.append_nil]

theorem step_of_unchanged (g : Settings) (steps : List Step) {call : Call} (hcall : call.Asking)
    (hheld : ((fresh g).run steps).held = false)
    (hsame : ((fresh g).run steps).supervisor.after
      (serves ((fresh g).run steps).issued [call]) = ((fresh g).run steps).supervisor) :
    let x := (fresh g).run steps
    (x.step (.call call)).state = { x with issued := x.issued + 1 } ∧
      (x.step (.call call)).trace = x.supervisor.trace (serves x.issued [call]) := by
  have hserved := served_call g steps hcall
  have hsettle := (settled_run g steps).move_settle
  obtain ⟨hdraining, hreturns⟩ := draining_of_pending g steps
  obtain ⟨hqueue, hturn, hahead, hdrainers⟩ := atTurn_of_free g steps hheld
  generalize (fresh g).run steps = x at *
  rw [carryOut, hheld, if_neg Bool.false_ne_true] at hserved
  have hsup : (x.step (.call call)).state.supervisor = x.supervisor := by
    rw [hserved.supervisor, hturn, hsame, hsettle]
  have hwaits : (x.step (.call call)).state.draining = x.draining := by
    rw [hserved.draining, hsup, hdrainers, hdraining]
  refine ⟨?_, ?_⟩
  · have hline := hserved.line
    generalize (x.step (.call call)).state = y at *
    cases y
    simp_all [line]
  · rw [hserved.trace, hahead, hturn, closing, hsame, hsettle, hdrainers, hreturns]
    simp

end Session
end StreamSupervisor
