import StreamSupervisor.Proofs.Lock.Progress

/-! # While the registry is held

From a hold to the next release no request is served. So nothing is launched, the registry
is left to the guard, and the calls that need it stand in line in the order of their issue.
-/

namespace StreamSupervisor

/-- A call that is answered without the registry: its key or its spec is refused, or it asks
for what is known without. -/
def Call.Prompt : Call → Prop
  | start key spec => Channel.ofKey? key = none ∨ spec.complaint? ≠ none
  | stop key | status key | isRunning key => Channel.ofKey? key = none
  | isShutDown | pendingReapers => True
  | _ => False

theorem Call.prompt_iff {call : Call} : call.Prompt ↔ call.request? = none := by
  cases call with
  | start key spec =>
    cases hc : Channel.ofKey? key <;> cases hs : spec.complaint? <;>
      simp [Prompt, request?, hc, hs]
  | stop key | status key | isRunning key => simp [Prompt, request?]
  | _ => simp [Prompt, request?]

namespace Supervisor

variable {k : Supervisor Script} {m : Move}

/-- A move that finds the registry held leaves it to the guard, launches nothing, and fires no
token unless it is a cancel by hand or the issue of a shutdown. -/
structure KeptOut (k : Supervisor Script) (m : Move) : Prop where
  registry : (∀ call, m ≠ .guard call) → (k.move m).1.registry = k.registry
  launched : ∀ record, .launched record ∉ (k.move m).2
  processes : (k.move m).1.processes.length = k.processes.length
  fired : ∀ (i : Nat) (p q : Process), k.processes[i]? = some p →
    (k.move m).1.processes[i]? = some q → q.fired = true →
    p.fired = true ∨ k.Cancels m i ∨ ∃ n, m = .issue n .shutdown
  guests : ∀ j : Nat, (k.move m).1.guests[j]? = some true →
    k.guests[j]? = some true ∨ ∃ c, m = .guard (.cancel c) ∧ k.owner? c = some (.guest j)

theorem registry_move (hserve : ∀ n r, m ≠ .serve n r) (hguard : ∀ call, m ≠ .guard call) :
    (k.move m).1.registry = k.registry := by
  cases m with
  | issue n call => cases call <;> rfl
  | serve n r => exact (hserve n r rfl).elim
  | guard call => exact (hguard call rfl).elim
  | tell i collected =>
    simp only [move, tell]
    split <;> rfl
  | _ => rfl

theorem guests_move (hserve : ∀ n r, m ≠ .serve n r) {j : Nat}
    (h : (k.move m).1.guests[j]? = some true) :
    k.guests[j]? = some true ∨ ∃ c, m = .guard (.cancel c) ∧ k.owner? c = some (.guest j) := by
  cases m with
  | issue n call => cases call <;> exact .inl h
  | serve n r => exact (hserve n r rfl).elim
  | guard call =>
    cases call with
    | cancel c =>
      simp only [move, guardStep] at h
      split at h
      · rename_i e he
        by_cases ho : e.owner = .guest j
        · exact .inr ⟨c, rfl, by simp [owner?, he, ho]⟩
        · exact .inl (by simpa [getElem?_guests_fire, ho] using h)
      · exact .inl h
    | set c s sink =>
      simp only [move, guardStep, putGuest, List.getElem?_append] at h
      split at h
      · exact .inl h
      · simp [List.getElem?_singleton] at h
    | _ => exact .inl h
  | tell i collected =>
    simp only [move, tell] at h
    split at h <;> exact .inl h
  | _ => exact .inl h

theorem keptOut (hserve : ∀ n r, m ≠ .serve n r) : k.KeptOut m where
  registry hguard := registry_move hserve hguard
  launched record hr := by
    obtain ⟨n, c, s, hm, -⟩ := mem_move_launched hr
    exact hserve _ _ hm
  processes := (evolves_move (.inr fun n c s => hserve n _)).length_eq.symm
  fired i p q hp hq hf := by
    obtain ⟨q', hq', -, hfired⟩ := process_move m hp
    obtain rfl := Option.some.inj (hq'.symm.trans hq)
    refine (hfired.mp hf).imp id fun hfires => ?_
    cases m with
    | issue n call => exact .inr ⟨n, by rw [show call = .shutdown from hfires]⟩
    | serve n r => exact (hserve n r rfl).elim
    | guard call =>
      cases call with
      | cancel c => exact .inl ⟨c, rfl, hfires⟩
      | _ => exact hfires.elim
    | _ => exact hfires.elim
  guests j := guests_move hserve

end Supervisor

namespace Line

variable {l : Line} {s : Step} {n : Nat} {r : Request}

theorem act_of_held (hh : l.held = true) (hs : s ≠ .release) : l.act s = l.issueAll s.calls := by
  cases s with
  | hold =>
    rw [show Step.calls .hold = [] from rfl, issueAll_nil]
    cases l
    exact congrArg (Line.mk · _ _) hh.symm
  | release => exact (hs rfl).elim
  | _ => rfl

theorem serve_not_mem_moves (hh : l.held = true) (hs : s ≠ .release) :
    .serve n r ∉ l.moves s := by
  have hcalls (calls : List Call) : .serve n r ∉ l.callMoves calls := by simp [callMoves, hh]
  cases s with
  | release => exact (hs rfl).elim
  | call call => exact hcalls [call]
  | batch calls => exact hcalls calls
  | _ => simp [moves, hh, callMoves, Step.calls]

theorem issue_mem_moves {i : Nat} {call : Call} (h : s.calls[i]? = some call) :
    .issue (l.issued + i) call ∈ l.moves s := by
  have hcalls {calls : List Call} (h : calls[i]? = some call) :
      .issue (l.issued + i) call ∈ l.callMoves calls := by
    refine List.mem_flatMap.mpr ⟨(call, l.issued + i), ?_, List.mem_cons_self⟩
    simpa [List.mk_mem_zipIdx_iff_le_and_getElem?_sub] using h
  cases s with
  | call c => exact hcalls h
  | batch calls => exact hcalls h
  | _ => simp [Step.calls] at h

end Line

namespace Session

variable {x : Session Script} {stretch : List Step}

theorem run_line_of_held (hh : x.held = true) (hs : .release ∉ stretch) :
    (x.run stretch).line = x.line.issueAll (stretch.flatMap Step.calls) := by
  induction stretch generalizing x with
  | nil => exact x.line.issueAll_nil.symm
  | cons s rest ih =>
    obtain ⟨hne, hrest⟩ := not_or.mp (mt List.mem_cons.mpr hs)
    have hline : (x.step s).state.line = x.line.issueAll s.calls :=
      (x.step_line s).trans (Line.act_of_held hh (Ne.symm hne))
    have hheld : (x.step s).state.held = true := (congrArg Line.held hline).trans hh
    rw [show x.run (s :: rest) = (x.step s).state.run rest from rfl, ih hheld hrest, hline,
      List.flatMap_cons, Line.issueAll_append]

theorem serve_not_mem_moves_of_held (hh : x.held = true) (hs : .release ∉ stretch) (n : Nat)
    (r : Request) : .serve n r ∉ x.moves stretch := by
  induction stretch generalizing x with
  | nil => simp [moves]
  | cons s rest ih =>
    obtain ⟨hne, hrest⟩ := not_or.mp (mt List.mem_cons.mpr hs)
    have hline := (x.step_line s).trans (Line.act_of_held hh (Ne.symm hne))
    have hheld : (x.step s).state.held = true := (congrArg Line.held hline).trans hh
    rw [moves, List.mem_append, List.mem_cons, actMoves_eq]
    rintro (h | h | h)
    · exact Line.serve_not_mem_moves hh (Ne.symm hne) h
    · cases h
    · exact ih hheld hrest h

end Session
end StreamSupervisor
