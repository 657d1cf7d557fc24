import StreamSupervisor.Proofs.Ending.Reaping

/-! # Outcomes

What is recorded of a process is settled when it ends, by what is collected of it and by
whether its token has fired by then. So whoever was alive when it was asked to stop counts as
cancelled, unless its status could not be collected, and nobody else does.
-/

namespace StreamSupervisor

/-- What an outcome tells of a process that ends: what is collected of it, and whether its
token has fired. -/
structure ExitOutcome.Tells (o : ExitOutcome) (collected : Collected) (fired : Bool) : Prop where
  cancelled : o = .cancelled ↔ fired = true ∧ ∃ status, collected = .status status
  completed : o = .completed ↔
    fired = false ∧ ∃ status, collected = .status status ∧ status.success = true
  failed : ∀ code, o = .failed code ↔ fired = false ∧
    ∃ status, collected = .status status ∧ status.success = false ∧ status.code? = code
  waitFailed : ∀ text, o = .waitFailed text ↔ ∃ fault, collected = .fault fault ∧ fault.text = text

theorem ExitOutcome.classify_tells (collected : Collected) (fired : Bool) :
    (classify collected fired).Tells collected fired := by
  cases collected with
  | fault fault => constructor <;> simp
  | status status =>
    cases fired with
    | true => constructor <;> simp
    | false =>
      cases h : status.success <;> constructor <;> simp [classify, h]

namespace Supervisor

variable {k : Supervisor Script} {m : Move} {ms : List Move} {c : Channel} {i : Nat}
  {p q : Process} {o : ExitOutcome}

structure Ends (k : Supervisor Script) (m : Move) (i : Nat) (p : Process) : Prop where
  settles : m = .settle
  process : k.processes[i]? = some p
  alive : p.exit = none
  canEnd : p.canEnd = true

theorem exit_move_iff :
    (∃ q, (k.move m).1.processes[i]? = some q ∧ q.exit = some o) ↔
      (∃ p, k.processes[i]? = some p ∧ p.exit = some o) ∨
        ∃ p, k.Ends m i p ∧ o = .classify p.leaves p.fired := by
  constructor
  · rintro ⟨q, hq, ho⟩
    rcases change_cases hq with ⟨p, hp, hc⟩ | hi
    -- what was there before has ended before, or ends now; what is new has not ended
    · by_cases hm : m = .settle
      · cases hpe : p.exit with
        | some o' =>
          obtain rfl := Option.some.inj ((hc.evolves.exit o' hpe).symm.trans ho)
          exact .inl ⟨p, hp, hpe⟩
        | none =>
          subst hm
          rw [getElem?_settle, hp] at hq
          obtain rfl : p.settle 0 = q := Option.some.inj hq
          rcases p.settle_zero_cases with h | ⟨-, hcan, h⟩
          · rw [h, hpe] at ho
            cases ho
          · rw [h] at ho
            exact .inr ⟨p, ⟨rfl, hp, hpe, hcan⟩, (Option.some.inj ho).symm⟩
      · exact .inl ⟨p, hp, (hc.exit hm).symm.trans ho⟩
    · cases (process_of_move hi hq).2.2.2.1.symm.trans ho
  · rintro (⟨p, hp, ho⟩ | ⟨p, ⟨rfl, hp, he, hc⟩, rfl⟩)
    · obtain ⟨q, hq, hpq, -⟩ := process_move m hp
      exact ⟨q, hq, hpq.exit o ho⟩
    · refine ⟨p.settle 0, by rw [getElem?_settle, hp]; rfl, ?_⟩
      simp [Process.settle_zero, Process.isAlive, he, hc, Process.finish]

theorem exit_after_iff :
    (∃ q, (k.after ms).processes[i]? = some q ∧ q.exit = some o) ↔
      (∃ p, k.processes[i]? = some p ∧ p.exit = some o) ∨
        k.Sometime ms fun k m => ∃ p, k.Ends m i p ∧ o = .classify p.leaves p.fired := by
  induction ms generalizing k with
  | nil => simp [not_sometime_nil]
  | cons m ms ih => rw [after_cons, ih, exit_move_iff, sometime_cons_iff, or_assoc]

theorem exit_of_fired (hp : k.processes[i]? = some p) (hf : p.fired = true) (he : p.exit = none)
    (hq : (k.after ms).processes[i]? = some q) (ho : q.exit = some o) :
    o = .cancelled ∨ ∃ text, o = .waitFailed text := by
  rcases exit_after_iff.mp ⟨q, hq, ho⟩ with ⟨p', hp', ho'⟩ | ⟨before, m, rest, -, r, hr, rfl⟩
  · obtain rfl := Option.some.inj (hp.symm.trans hp')
    cases he.symm.trans ho'
  · obtain ⟨r', hr', hpr⟩ := evolves_after before hp
    obtain rfl := Option.some.inj (hr'.symm.trans hr.process)
    rw [hpr.fired hf]
    cases r'.leaves with
    | status status => exact .inl rfl
    | fault fault => exact .inr ⟨_, rfl⟩

theorem exit_of_asksToStop (hb : k.Backed) (ha : k.AsksToStop m i) (hp : k.processes[i]? = some p)
    (he : p.exit = none) : ∃ q, ((k.move m).1.after ms).processes[i]? = some q ∧
      ∀ o, q.exit = some o → o = .cancelled ∨ ∃ text, o = .waitFailed text := by
  have hfires : k.Fires m i := (fires_iff hb).mpr (.inr ha)
  have hm : m ≠ .settle := fun h => (h ▸ hfires :)
  obtain ⟨p', hp', -, hf⟩ := process_move m hp
  obtain ⟨p'', hp'', hc⟩ := change_move m hp
  obtain rfl := Option.some.inj (hp'.symm.trans hp'')
  obtain ⟨q, hq, -⟩ := evolves_after ms hp'
  exact ⟨q, hq, fun o => exit_of_fired hp' (hf.mpr (.inr hfires)) ((hc.exit hm).trans he) hq⟩

theorem fired_of_cancelled (hk : k.processes = []) (hp : (k.after ms).processes[i]? = some p)
    (ho : p.exit = some .cancelled) : p.fired = true := by
  rcases exit_after_iff.mp ⟨p, hp, ho⟩ with ⟨_, hq, -⟩ | ⟨before, m, rest, rfl, q, hq, hc⟩
  · simp [hk] at hq
  · obtain ⟨p', hp', hqp⟩ := evolves_after (m :: rest) hq.process
    rw [after_append] at hp
    obtain rfl := Option.some.inj (hp'.symm.trans hp)
    exact hqp.fired (((ExitOutcome.classify_tells _ _).cancelled.mp hc.symm).1)

theorem ShownUnfired.after (h : k.ShownUnfired) (hb : k.Backed)
    (hg : ∀ c, .guard (.cancel c) ∉ ms) (hs : ∀ n, .issue n .shutdown ∉ ms) :
    (k.after ms).ShownUnfired := by
  refine (after_induction (P := fun k => k.Backed ∧ k.ShownUnfired) ⟨hb, h⟩ ?_).2
  rintro m hm k ⟨hb, h⟩
  exact ⟨hb.move m, h.move hb (fun c hc => hg c (hc ▸ hm)) fun n hn => hs n (hn ▸ hm)⟩

end Supervisor

namespace Session

open Supervisor

/-- **Outcomes are truthful.** Whoever has ended did so when things settled, and its outcome
is cancelled just if its token had fired by then and its status could be collected, that it
completed or failed just if its token had not and the status says so, and that waiting failed
just if the status could not be collected. The token had fired just if a shutdown was issued
before, or the process was asked to stop through its handle. Whoever was alive when it was
asked to stop never counts as completed or failed. While nobody cancels by hand or shuts down,
nothing on show counts as cancelled. -/
theorem outcomes_are_truthful (g : Settings) (steps : List Step) :
    let k₀ := (fresh g).supervisor
    let ms := (fresh g).moves steps
    (∀ (i : Nat) (p : Process) (o : ExitOutcome),
      ((fresh g).run steps).supervisor.processes[i]? = some p → p.exit = some o →
      ∃ before rest q, ms = before ++ .settle :: rest ∧ (k₀.after before).Ends .settle i q ∧
        o.Tells q.leaves q.fired ∧
        (q.fired = true ↔ (∃ n, .issue n .shutdown ∈ before) ∨
          k₀.Sometime before fun k m => k.AsksToStop m i)) ∧
    (∀ before m later rest i p, ms = before ++ m :: (later ++ rest) →
      (k₀.after before).AsksToStop m i → (k₀.after before).processes[i]? = some p →
      p.exit = none → ∃ q, (k₀.after (before ++ m :: later)).processes[i]? = some q ∧
        ∀ o, q.exit = some o → o = .cancelled ∨ ∃ text, o = .waitFailed text) ∧
    ((∀ c, Step.guard (.cancel c) ∉ steps) → ∀ before rest, ms = before ++ rest →
      (∀ n, .issue n .shutdown ∉ before) →
      let k := k₀.after before
      (∀ c e, k.registry.get c = some e → k.exit? e.owner ≠ some .cancelled) ∧
      (∀ c s, k.status? c = some s → s.exit ≠ some .cancelled) ∧
      ∀ s ∈ k.list, s.exit ≠ some .cancelled) := by
  intro k₀ ms
  have hk₀ : (fresh g).supervisor.shutDown ≠ true := by simp [fresh]
  refine ⟨fun i p o hp ho => ?_, ?_, ?_⟩
  · rw [run_supervisor] at hp
    rcases exit_after_iff.mp ⟨p, hp, ho⟩ with ⟨_, hq, -⟩ | ⟨before, m, rest, hms, q, hq, rfl⟩
    · simp [fresh] at hq
    · obtain rfl := hq.settles
      refine ⟨before, rest, q, hms, hq, ExitOutcome.classify_tells _ _, ?_⟩
      rw [fired_after_iff (backed_fresh g) rfl hq.process, shutDown_after, or_iff_right hk₀]
  · rintro before m later rest i p - ha hp he
    rw [after_append, after_cons]
    exact exit_of_asksToStop ((backed_fresh g).after before) ha hp he
  · intro hg before rest hms hs k
    have hunfired : k.ShownUnfired := by
      refine ShownUnfired.after (by simp [ShownUnfired, fresh, k₀]) (backed_fresh g) ?_ hs
      exact fun c hc => hg c (guard_mem_of_mem_moves (hms ▸ List.mem_append_left rest hc))
    have hentry {c : Channel} {e : Entry} (he : k.registry.get c = some e) :
        k.exit? e.owner ≠ some .cancelled := by
      intro h
      cases ho : e.owner with
      | guest j => simp [exit?, ho] at h
      | process i =>
        simp only [exit?, ho, Option.bind_eq_some_iff] at h
        obtain ⟨p, hp, hexit⟩ := h
        have hshown := hunfired c i p hp (shows_iff.mpr ⟨e, he, ho⟩)
        cases hshown.symm.trans (fired_of_cancelled rfl hp hexit)
    have hstatus {c : Channel} {s : StreamStatus} (h : k.status? c = some s) :
        s.exit ≠ some .cancelled := by
      obtain ⟨e, he, rfl⟩ := Option.map_eq_some_iff.mp h
      exact hentry he
    refine ⟨fun c e => hentry, fun c s => hstatus, fun s hs => ?_⟩
    obtain ⟨c, hc⟩ := mem_list.mp hs
    exact hstatus hc

/-- A process that is stopped counts as cancelled, although it goes on and then fails. -/
theorem outcomes_are_truthful_slow :
    let start : Call := .start "audio" { source := "tone" }
    let before : List Move := [.script [.succeed .numbered .untilTold], .settle, .issue 0 start,
      .serve 0 (.start .audio { source := "tone" }), .settle, .issue 1 (.stop "audio")]
    let later : List Move := [.settle, .tell 0 (.status (.exited 3)), .settle]
    let steps : List Step := [.script [.succeed .numbered .untilTold], .call start,
      .call (.stop "audio"), .exit 0 (.status (.exited 3))]
    let stop : Move := .serve 1 (.stop .audio)
    let k := (fresh {}).supervisor.after before
    let k' := (fresh {}).supervisor.after (before ++ stop :: later)
    (fresh {}).moves steps = before ++ stop :: (later ++ []) ∧ k.AsksToStop stop 0 ∧
      (∃ p, k.processes[0]? = some p ∧ p.exit = none) ∧
      (∀ c s, k.status? c = some s → s.exit ≠ some .cancelled) ∧
      ∃ q o, k'.processes[0]? = some q ∧ q.exit = some o ∧
        (o = .cancelled ∨ ∃ text, o = .waitFailed text) := by
  intro start before later steps stop k k'
  obtain ⟨-, hstopped, hshown⟩ := outcomes_are_truthful {} steps
  have hms : (fresh {}).moves steps = before ++ stop :: (later ++ []) := by decide
  have ha : k.AsksToStop stop 0 :=
    .inl ⟨rfl, ⟨.audio, by decide⟩, fun ⟨c, hc⟩ => by cases c <;> exact absurd hc (by decide)⟩
  obtain ⟨p, hp⟩ : ∃ p, k.processes[0]? = some p := Option.isSome_iff_exists.mp (by decide)
  have he : (k.processes[0]?.bind (·.exit)) = none := by decide
  rw [hp, Option.bind_some] at he
  obtain ⟨q, hq, ho⟩ := hstopped before stop later [] 0 p hms ha hp he
  have hqe : (k'.processes[0]?.bind (·.exit)).isSome := by decide
  rw [hq, Option.bind_some] at hqe
  obtain ⟨o, hqo⟩ := Option.isSome_iff_exists.mp hqe
  refine ⟨hms, ha, ⟨p, hp, he⟩, ?_, q, o, hq, hqo, ho o hqo⟩
  exact (hshown (by simp [steps]) before _ hms (by simp [before, start])).2.1

end Session
end StreamSupervisor
