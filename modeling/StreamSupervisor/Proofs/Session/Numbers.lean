import StreamSupervisor.Proofs.Session.Moves

/-! # Call numbers

The calls of a session are numbered in the order of their issue. Whatever waits in a
session, and whatever is served in it, is what the call of its number asks for.
-/

namespace StreamSupervisor

theorem Admission.onChannel_eq_queued_iff {key : String}
    {request : Channel → Except StreamError Request} {r : Request} :
    onChannel key request = .queued r ↔ ∃ c, Channel.ofKey key = .ok c ∧ request c = .ok r := by
  unfold onChannel
  cases Channel.ofKey key with
  | error e => simp [bind, Except.bind]
  | ok c => cases h : request c <;> simp [bind, Except.bind, h]

/-- A call that passes its checks goes on as a request. -/
def Call.Asks (call : Call) (r : Request) : Prop :=
  ∀ k : Supervisor Script, k.check call = .queued r

namespace Call

theorem asks_of_check {k : Supervisor Script} {call : Call} {r : Request}
    (h : k.check call = .queued r) : call.Asks r := by
  cases call with
  | isShutDown => cases h
  | pendingReapers => cases h
  | _ => exact fun _ => h

theorem asks_shutdown (r : Request) : Call.shutdown.Asks r ↔ r = .shutdown := by
  constructor
  · intro h
    have := h { settings := {}, launcher := {} }
    simpa [Supervisor.check, eq_comm] using this
  · rintro rfl
    exact fun _ => rfl

theorem eq_shutdown_of_asks {call : Call} (h : call.Asks .shutdown) : call = .shutdown := by
  have hc := h { settings := {}, launcher := {} }
  cases call <;> simp only [Supervisor.check, Admission.onChannel_eq_queued_iff,
    Admission.queued.injEq, reduceCtorEq, Except.ok.injEq, and_false, exists_false] at hc
  case start key spec =>
    obtain ⟨c, -, hs⟩ := hc
    cases hv : spec.validate <;> simp [hv, Except.map] at hs
  case shutdown => rfl

end Call

def Move.issued? : Move → Option Call
  | issue _ call => some call
  | _ => none

/-- What a move has to do with the calls issued. -/
def Move.Numbered (calls : List Call) : Move → Prop
  | issue n call => calls[n]? = some call
  | serve n r => ∃ call, calls[n]? = some call ∧ call.Asks r
  | _ => True

theorem getElem?_append_of_eq_some {calls later : List Call} {n : Nat} {call : Call}
    (h : calls[n]? = some call) : (calls ++ later)[n]? = some call := by
  rw [List.getElem?_append_left (List.getElem?_eq_some_iff.mp h).1, h]

theorem Move.Numbered.append {m : Move} {calls : List Call} (h : m.Numbered calls)
    (later : List Call) : m.Numbered (calls ++ later) := by
  cases m with
  | issue n call => exact getElem?_append_of_eq_some h
  | serve n r =>
    obtain ⟨call, hn, hr⟩ := h
    exact ⟨call, getElem?_append_of_eq_some hn, hr⟩
  | _ => trivial

namespace Session

variable {x : Session Script} {calls : List Call}

/-- A session in which some calls were issued, in this order. -/
structure Numbered (calls : List Call) (x : Session Script) : Prop where
  issued : x.issued = calls.length
  queue : ∀ p ∈ x.queue, (Move.serve p.1 p.2).Numbered calls
  draining : ∀ n ∈ x.draining, calls[n]? = some .shutdown

theorem numbered_fresh (g : Settings) : (fresh g).Numbered [] := by
  refine ⟨rfl, ?_, ?_⟩ <;> simp [fresh]

theorem Numbered.perform (h : x.Numbered calls) {n : Nat} {r : Request}
    (hr : (Move.serve n r).Numbered calls) : (x.perform n r).1.Numbered calls := by
  unfold Session.perform
  cases ha : (x.supervisor.serve r).answer with
  | some a => simpa only [ha] using ⟨h.issued, h.queue, h.draining⟩
  | none =>
    have hs : r = .shutdown := by cases r <;> simp_all [Supervisor.serve]
    subst hs
    obtain ⟨call, hn, hc⟩ := hr
    refine ⟨h.issued, h.queue, fun m hm => ?_⟩
    rcases List.mem_append.mp hm with hm | hm
    · exact h.draining m hm
    · rw [List.mem_singleton.mp hm, hn, Call.eq_shutdown_of_asks hc]

theorem Numbered.performAll (h : x.Numbered calls) {queue : List (Nat × Request)}
    (hq : ∀ p ∈ queue, (Move.serve p.1 p.2).Numbered calls) :
    (x.performAll queue).1.Numbered calls := by
  induction queue generalizing x with
  | nil => exact h
  | cons p rest ih =>
    obtain ⟨hp, hrest⟩ := List.forall_mem_cons.mp hq
    exact ih (h.perform hp) hrest

theorem Numbered.issue (h : x.Numbered calls) (call : Call) :
    (x.issue call).1.Numbered (calls ++ [call]) ∧
      ∀ m ∈ x.issueMoves call, m.Numbered (calls ++ [call]) := by
  have hn : (calls ++ [call])[x.issued]? = some call := by simp [h.issued]
  have hy (held : Bool) : Numbered (calls ++ [call]) { x with
      supervisor := x.supervisor.announce call, held := held, issued := x.issued + 1 } :=
    ⟨by simp [h.issued], fun p hp => (h.queue p hp).append _,
      fun n hn => getElem?_append_of_eq_some (h.draining n hn)⟩
  simp only [Session.issue, issueMoves]
  cases hc : (x.supervisor.announce call).check call with
  | answered a => exact ⟨hy _, fun m hm => List.mem_singleton.mp hm ▸ hn⟩
  | queued r =>
    have hr : (Move.serve x.issued r).Numbered (calls ++ [call]) :=
      ⟨call, hn, Call.asks_of_check hc⟩
    simp only
    split
    · refine ⟨⟨(hy true).issued, fun p hp => ?_, (hy true).draining⟩, fun m hm => ?_⟩
      · rcases List.mem_append.mp hp with hp | hp
        · exact (h.queue p hp).append _
        · rw [List.mem_singleton.mp hp]
          exact hr
      · rw [List.mem_singleton.mp hm]
        exact hn
    · refine ⟨(hy _).perform hr, fun m hm => ?_⟩
      rcases List.mem_cons.mp hm with rfl | hm
      · exact hn
      · rw [List.mem_singleton.mp hm]
        exact hr

theorem Numbered.issueAll (h : x.Numbered calls) (later : List Call) :
    (x.issueAll later).1.Numbered (calls ++ later) ∧
      ∀ m ∈ x.issueAllMoves later, m.Numbered (calls ++ later) := by
  induction later generalizing x calls with
  | nil => simpa [Session.issueAll, issueAllMoves] using h
  | cons call rest ih =>
    obtain ⟨hx, hm⟩ := h.issue call
    obtain ⟨hy, hms⟩ := ih hx
    rw [List.append_assoc, List.singleton_append] at hy hms
    refine ⟨hy, fun m hmem => ?_⟩
    rcases List.mem_append.mp hmem with hmem | hmem
    · simpa using (hm m hmem).append rest
    · exact hms m hmem

theorem Numbered.act (h : x.Numbered calls) (s : Step) :
    (x.act s).state.Numbered (calls ++ s.calls) ∧
      ∀ m ∈ x.actMoves s, m.Numbered (calls ++ s.calls) := by
  cases s with
  | call call => exact h.issue call
  | batch later =>
    have hb : (x.act (.batch later)).state = (x.issueAll later).1 := by cases later <;> rfl
    rw [hb]
    exact h.issueAll later
  | release =>
    simp only [Step.calls, List.append_nil]
    have hx : ({ x with held := false, queue := [] } : Session Script).Numbered calls :=
      ⟨h.issued, by simp, h.draining⟩
    refine ⟨hx.performAll h.queue, fun m hm => ?_⟩
    obtain ⟨p, hp, rfl⟩ := List.mem_map.mp hm
    exact h.queue p hp
  | guard call =>
    simp only [Step.calls, List.append_nil, Session.act, actMoves]
    split
    · exact ⟨⟨h.issued, h.queue, h.draining⟩, by simp [Move.Numbered]⟩
    · exact ⟨h, by simp⟩
  | _ =>
    simp only [Step.calls, List.append_nil]
    exact ⟨⟨h.issued, h.queue, h.draining⟩, by simp [actMoves, Move.Numbered]⟩

theorem Numbered.settle (h : x.Numbered calls) (elapsed : Nat) :
    (x.settle elapsed).1.Numbered calls := by
  simp only [Session.settle]
  split
  · exact ⟨h.issued, h.queue, by simp⟩
  · exact ⟨h.issued, h.queue, h.draining⟩

theorem Numbered.step (h : x.Numbered calls) (s : Step) :
    (x.step s).state.Numbered (calls ++ s.calls) := (h.act s).1.settle 0

theorem Numbered.run (h : x.Numbered calls) (steps : List Step) :
    (x.run steps).Numbered (calls ++ steps.flatMap Step.calls) := by
  induction steps generalizing x calls with
  | nil => simpa [Session.run] using h
  | cons s rest ih => simpa [Session.run] using ih (h.step s)

theorem Numbered.moves (h : x.Numbered calls) (steps : List Step) :
    ∀ m ∈ x.moves steps, m.Numbered (calls ++ steps.flatMap Step.calls) := by
  induction steps generalizing x calls with
  | nil => simp [Session.moves]
  | cons s rest ih =>
    intro m hm
    rw [List.flatMap_cons, ← List.append_assoc]
    rcases List.mem_append.mp hm with hm | hm
    · exact ((h.act s).2 m hm).append _
    · rcases List.mem_cons.mp hm with rfl | hm
      · trivial
      · exact ih (h.step s) m hm

/-! ### Calls issued -/

theorem filterMap_issued_issueMoves (x : Session Script) (call : Call) :
    (x.issueMoves call).filterMap Move.issued? = [call] := by
  simp only [issueMoves]
  split
  · rfl
  · split <;> rfl

theorem filterMap_issued_issueAllMoves (x : Session Script) (calls : List Call) :
    (x.issueAllMoves calls).filterMap Move.issued? = calls := by
  induction calls generalizing x with
  | nil => rfl
  | cons call rest ih =>
    rw [issueAllMoves, List.filterMap_append, ih, filterMap_issued_issueMoves]
    rfl

theorem filterMap_issued_actMoves (x : Session Script) (s : Step) :
    (x.actMoves s).filterMap Move.issued? = s.calls := by
  cases s with
  | call call => exact x.filterMap_issued_issueMoves call
  | batch calls => exact x.filterMap_issued_issueAllMoves calls
  | release => simp [actMoves, Step.calls, List.filterMap_map, Function.comp_def, Move.issued?]
  | guard call =>
    simp only [actMoves]
    split <;> rfl
  | _ => rfl

theorem filterMap_issued_moves (x : Session Script) (steps : List Step) :
    (x.moves steps).filterMap Move.issued? = steps.flatMap Step.calls := by
  induction steps generalizing x with
  | nil => rfl
  | cons s rest ih =>
    rw [moves, List.filterMap_append, filterMap_issued_actMoves, List.filterMap_cons_none rfl, ih,
      List.flatMap_cons]

theorem issue_mem_moves_iff {x : Session Script} {steps : List Step} {call : Call} :
    (∃ n, .issue n call ∈ x.moves steps) ↔ call ∈ steps.flatMap Step.calls := by
  rw [← x.filterMap_issued_moves, List.mem_filterMap]
  constructor
  · rintro ⟨n, h⟩
    exact ⟨_, h, rfl⟩
  · rintro ⟨m, h, hm⟩
    cases m <;> simp only [Move.issued?, Option.some.injEq, reduceCtorEq] at hm
    exact ⟨_, hm ▸ h⟩

/-! ### Guard calls -/

theorem guard_not_mem_issueMoves {x : Session Script} {call : Call} {guard : GuardCall} :
    .guard guard ∉ x.issueMoves call := by
  simp only [issueMoves]
  split
  · simp
  · split <;> simp

theorem guard_not_mem_issueAllMoves {x : Session Script} {calls : List Call} {guard : GuardCall} :
    .guard guard ∉ x.issueAllMoves calls := by
  induction calls generalizing x with
  | nil => simp [issueAllMoves]
  | cons call rest ih => simp [issueAllMoves, guard_not_mem_issueMoves, ih]

theorem guard_mem_of_mem_moves {x : Session Script} {steps : List Step} {guard : GuardCall}
    (h : .guard guard ∈ x.moves steps) : .guard guard ∈ steps := by
  induction steps generalizing x with
  | nil => simp [moves] at h
  | cons s rest ih =>
    simp only [moves, List.mem_append, List.mem_cons, reduceCtorEq, false_or] at h
    refine List.mem_cons.mpr (h.imp (fun h => ?_) ih)
    cases s with
    | call call => exact (guard_not_mem_issueMoves h).elim
    | batch calls => exact (guard_not_mem_issueAllMoves h).elim
    | release => simp [actMoves] at h
    | guard call =>
      simp only [actMoves] at h
      split at h <;> simp at h
      rw [h]
    | _ => simp [actMoves] at h

end Session
end StreamSupervisor
