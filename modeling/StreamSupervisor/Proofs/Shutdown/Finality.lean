import StreamSupervisor.Proofs.Token.Ownership

/-! # A shutdown is final

Once a shutdown was issued nothing is launched any more, and this does not wait for the
registry: all that a supervisor can do from then on is to let its processes end. Once the
shutdown had the registry, only guests come into it.
-/

namespace StreamSupervisor

def Move.written : Move → List ScriptedLaunch
  | script launches => launches
  | _ => []

theorem Process.Evolves.isAlive {p q : Process} (h : p.Evolves q) (hq : q.isAlive = true) :
    p.isAlive = true := by
  cases he : p.exit with
  | none => simp [Process.isAlive, he]
  | some o => simp [Process.isAlive, h.exit o he] at hq

namespace Supervisor

variable {k : Supervisor Script} {m : Move} {ms : List Move} {c : Channel} {e : Entry}

theorem launches_of_shutDown (h : k.shutDown = true) (r : Request) : k.launches r = false := by
  cases r <;> simp [launches, h]

theorem launched_not_mem_move (h : k.shutDown = true) (record : LaunchRecord) :
    .launched record ∉ (k.move m).2 := by
  intro hr
  obtain ⟨n, c, s, -, hl, -⟩ := mem_move_launched hr
  simp [launches_of_shutDown h] at hl

theorem launched_not_mem_trace (h : k.shutDown = true) (record : LaunchRecord) :
    .launched record ∉ k.trace ms := by
  rw [mem_trace_iff]
  rintro ⟨before, m, rest, -, hr⟩
  exact launched_not_mem_move (shutDown_after.mpr (.inl h)) record hr

theorem launcher_move (h : k.shutDown = true) (m : Move) :
    (k.move m).1.launcher.launches = k.launcher.launches ++ m.written := by
  cases m with
  | issue n call => cases call <;> simp [move, announce, fireAll, Move.written]
  | serve n r =>
    simp only [move, Move.written, List.append_nil]
    rw [(withdrawn_serve (launches_of_shutDown h r)).launcher]
  | script launches => rfl
  | tell i collected =>
    simp only [move, tell, Move.written, List.append_nil]
    split <;> rfl
  | guard call =>
    cases call with
    | cancel c =>
      simp only [move, guardStep, Move.written, List.append_nil]
      split <;> simp
    | _ => simp [move, guardStep, putGuest, Move.written]
  | settle => simp [move, settle, Move.written]

theorem launcher_after (h : k.shutDown = true) (ms : List Move) :
    (k.after ms).launcher.launches = k.launcher.launches ++ ms.flatMap Move.written := by
  induction ms generalizing k with
  | nil => simp
  | cons m ms ih =>
    rw [after_cons, ih (shutDown_move.mpr (.inl h)), launcher_move h, List.append_assoc,
      List.flatMap_cons]

theorem countP_isAlive_le {ps qs : List Process} (h : List.Forall₂ Process.Evolves ps qs) :
    qs.countP (·.isAlive) ≤ ps.countP (·.isAlive) := by
  induction h with
  | nil => exact Nat.le_refl _
  | @cons p q _ _ he _ ih =>
    rw [List.countP_cons, List.countP_cons]
    refine Nat.add_le_add ih ?_
    cases hq : q.isAlive with
    | false => simp
    | true => simp [he.isAlive hq]

theorem pending_after_le (h : k.shutDown = true) (ms : List Move) :
    (k.after ms).pending ≤ k.pending := by
  refine (after_induction (P := fun k' => k'.shutDown = true ∧ k'.pending ≤ k.pending)
    ⟨h, Nat.le_refl _⟩ ?_).2
  rintro m - k' ⟨hs, hp⟩
  exact ⟨shutDown_move.mpr (.inl hs),
    Nat.le_trans (countP_isAlive_le (evolves_move (.inl hs))) hp⟩

theorem entry_of_move (h : (k.move m).1.registry.get c = some e) :
    k.registry.get c = some e ∨
      (∃ s sink, m = .guard (.set c s sink) ∧
        e = { pid := none, spec := s, sink := sink, owner := .guest k.guests.length }) ∨
      ∃ n s, m = .serve n (.start c s) ∧ k.launches (.start c s) = true := by
  have old {cs : Channel → Bool} {k' : Supervisor Script} (hw : Withdrawn cs k k')
      (hg : k'.registry.get c = some e) : k.registry.get c = some e := by
    rw [hw.registry] at hg
    split at hg
    · cases hg
    · exact hg
  cases m with
  | issue n call => cases call <;> exact .inl h
  | serve n r =>
    simp only [move] at h
    have hserve := k.served_serve r
    generalize (k.serve r).state = k' at hserve h
    cases hserve with
    | withdrawn hw => exact .inl (old hw h)
    | failed hw => exact .inl (old hw h)
    | @launched _ d s _ hw hr hl =>
      by_cases hd : d = c
      · subst hd
        exact .inr (.inr ⟨n, s, by rw [hr], hr ▸ hl⟩)
      · exact .inl (old hw (by simpa [install, Slots.get_set, hd] using h))
  | tell i collected =>
    simp only [move, tell] at h
    split at h <;> exact .inl h
  | guard call =>
    cases call with
    | set d s sink =>
      by_cases hd : d = c
      · subst hd
        exact .inr (.inl ⟨s, sink, rfl, by simpa [move, guardStep, putGuest, eq_comm] using h⟩)
      · exact .inl (by simpa [move, guardStep, putGuest, Slots.get_set, hd] using h)
    | delete d =>
      simp only [move, guardStep, Slots.get_erase] at h
      split at h
      · cases h
      · exact .inl h
    | drain => simp [move, guardStep] at h
    | cancel d =>
      simp only [move, guardStep] at h
      split at h <;> exact .inl (by simpa using h)
    | _ => exact .inl h
  | _ => exact .inl h

theorem entry_of_after (hs : k.shutDown = true) (hc : k.registry.get c = none)
    (h : (k.after ms).registry.get c = some e) :
    ∃ s sink j, .guard (.set c s sink) ∈ ms ∧
      e = { pid := none, spec := s, sink := sink, owner := .guest j } := by
  refine (after_induction (P := fun k' => k'.shutDown = true ∧
    ∀ e, k'.registry.get c = some e → ∃ s sink j, .guard (.set c s sink) ∈ ms ∧
      e = { pid := none, spec := s, sink := sink, owner := .guest j })
    ⟨hs, by simp [hc]⟩ ?_).2 e h
  rintro m hm k' ⟨hs', hk'⟩
  refine ⟨shutDown_move.mpr (.inl hs'), fun e he => ?_⟩
  rcases entry_of_move he with he | ⟨s, sink, rfl, rfl⟩ | ⟨n, s, -, hl⟩
  · exact hk' e he
  · exact ⟨s, sink, _, hm, rfl⟩
  · simp [launches_of_shutDown hs'] at hl

theorem registry_serve_shutdown (k : Supervisor Script) (n : Nat) (c : Channel) :
    (k.move (.serve n .shutdown)).1.registry.get c = none :=
  (k.withdrawn_stopAll.registry c).trans (if_pos rfl)

/-- A supervisor that has been shut down for good, whatever moves it makes from here on. -/
structure Final (k : Supervisor Script) : Prop where
  isShutDown : k.check .isShutDown = .answered (.flag true)
  fired : ∀ p ∈ k.processes, p.fired = true
  launches : ∀ ms record, .launched record ∉ k.trace ms
  script : ∀ ms,
    (k.after ms).launcher.launches = k.launcher.launches ++ ms.flatMap Move.written
  refuses : ∀ n c s, k.move (.serve n (.start c s)) =
    (k, [.logged (.refusedShutDown c), .answered n (.refused .shutDown)])
  pending : ∀ ms, (k.after ms).pending ≤ k.pending

theorem Quenched.final (hq : k.Quenched) (h : k.shutDown = true) : k.Final where
  isShutDown := by rw [check, h]
  fired p hp := by
    obtain ⟨i, hi⟩ := List.mem_iff_getElem?.mp hp
    exact hq h i p hi
  launches ms record := launched_not_mem_trace h record
  script := launcher_after h
  refuses n c s := by simp [Supervisor.move, serve, start_of_shutDown h, Answer.ofResult]
  pending := pending_after_le h

end Supervisor

namespace Session

open Supervisor

/-- **A shutdown is final.** From the moment a shutdown is issued, even while it waits for
the registry, the token of every process ever launched has fired, the launcher is not called,
its script is not used up, every start that gets the registry is refused and changes nothing,
and the processes that are waited for get no more. Once the shutdown has had the registry,
only guests that were put in later are shown. -/
theorem shutdown_is_final (g : Settings) {steps : List Step} {before mid rest : List Move}
    {n : Nat} (h : (fresh g).moves steps = before ++ .issue n .shutdown :: (mid ++ rest)) :
    let k := (fresh g).supervisor.after (before ++ .issue n .shutdown :: mid)
    k.Final ∧ ∀ earlier later, mid = earlier ++ .serve n .shutdown :: later →
      ∀ c e, k.registry.get c = some e → ∃ s sink j, .guard (.set c s sink) ∈ later ∧
        e = { pid := none, spec := s, sink := sink, owner := .guest j } := by
  intro k
  have hs : k.shutDown = true := shutDown_after.mpr (.inr ⟨n, by simp⟩)
  refine ⟨((quenched_fresh g).after _).final hs, ?_⟩
  rintro earlier later rfl c e he
  have hserve : (((fresh g).supervisor.after
      (before ++ .issue n .shutdown :: earlier)).move (.serve n .shutdown)).1.shutDown = true :=
    shutDown_move.mpr (.inl (shutDown_after.mpr (.inr ⟨n, by simp⟩)))
  refine entry_of_after hserve (registry_serve_shutdown _ n c) ?_
  simpa only [k, after_append, after_cons] using he

/-- A shutdown that waits for the registry turns away the start before it in the queue. -/
theorem shutdown_is_final_while_held :
    let spec : StreamSpec := { source := "tone", restart := true }
    let call : Call := .start "audio" spec
    let before : List Move := [.issue 0 call, .serve 0 (.start .audio spec), .settle, .settle,
      .issue 1 call, .settle]
    let earlier : List Move := [.settle, .serve 1 (.start .audio spec)]
    let later : List Move := [.settle, .settle, .guard (.set .video spec "sink"), .settle]
    let k := (fresh {}).supervisor.after
      (before ++ .issue 2 .shutdown :: (earlier ++ .serve 2 .shutdown :: later))
    (fresh {}).moves [.call call, .hold, .call call, .call .shutdown, .release, .hold,
        .guard (.set .video spec "sink")] =
      before ++ .issue 2 .shutdown :: (earlier ++ .serve 2 .shutdown :: later ++ []) ∧
      k.Final ∧ ∃ e, k.registry.get .video = some e ∧
        ∃ s sink j, .guard (.set .video s sink) ∈ later ∧
          e = { pid := none, spec := s, sink := sink, owner := .guest j } := by
  intro spec call before earlier later k
  have hms : (fresh {}).moves [.call call, .hold, .call call, .call .shutdown, .release, .hold,
      .guard (.set .video spec "sink")] =
      before ++ .issue 2 .shutdown :: (earlier ++ .serve 2 .shutdown :: later ++ []) := by
    decide
  obtain ⟨hfinal, hguests⟩ := shutdown_is_final {} hms
  obtain ⟨e, he⟩ : ∃ e, k.registry.get .video = some e :=
    Option.isSome_iff_exists.mp (by decide)
  exact ⟨hms, hfinal, e, he, hguests earlier later rfl .video e he⟩

end Session
end StreamSupervisor
