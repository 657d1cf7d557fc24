import StreamSupervisor.Proofs.Lock.Turn
import StreamSupervisor.Session.Report

/-! # A restart is a stop and a start

A restart on a channel that shows a stream does what a stop of the channel and a start that is no
restart do one after the other. Only what is logged of the old stream differs, and the flag that
the new entry keeps.
-/

namespace StreamSupervisor

def Entry.markRestart (e : Entry) : Entry := { e with spec := { e.spec with restart := true } }

namespace Supervisor

variable {k : Supervisor Script} {c : Channel} {e : Entry} {n : Nat} {s : StreamSpec}

/-- A supervisor as it would be if a restart had put in what a channel shows. -/
def markRestart (k : Supervisor Script) (c : Channel) : Supervisor Script :=
  { k with registry := k.registry.put c ((k.registry.get c).map Entry.markRestart) }

theorem markRestart_of_free (h : k.registry.get c = none) : k.markRestart c = k := by
  simp only [markRestart, h, Option.map_none]
  rw [← h, Slots.put_get]

theorem list_markRestart (k : Supervisor Script) (c : Channel) :
    (k.markRestart c).list = k.list := by
  have hget (d : Channel) : ((k.markRestart c).registry.get d).map (k.statusOf d) =
      (k.registry.get d).map (k.statusOf d) := by
    simp only [markRestart, Slots.get_put]
    split
    · subst d
      rw [Option.map_map]
      rfl
    · rfl
  simp only [list, Slots.toList_eq_walk_all, Slots.walk, List.map_filterMap, Option.map_map]
  exact List.filterMap_congr fun d _ => hget d

theorem move_settle_markRestart (k : Supervisor Script) (c : Channel) :
    (k.markRestart c).move .settle = ((k.move .settle).1.markRestart c, (k.move .settle).2) := rfl

theorem install_restart (k : Supervisor Script) (c : Channel) (s : StreamSpec) (child : Child) :
    k.install c (s.choose (.restart true)) child =
      (k.install c (s.choose (.restart false)) child).markRestart c := by
  simp only [install, markRestart, Slots.get_set_self]
  simp only [Slots.set, Slots.put_put]
  rfl

theorem launch_restart (h : k.registry.get c = none) (s : StreamSpec) :
    let t := k.launch c (s.choose (.restart false))
    k.launch c (s.choose (.restart true)) = { t with state := t.state.markRestart c } := by
  intro t
  have hasked : k.asked c (s.choose (.restart true)) = k.asked c (s.choose (.restart false)) := rfl
  cases ha : (k.asked c (s.choose (.restart false))).child with
  | error fault =>
    have ht : t = _ := launch_of_error ha
    have hfree (l : Script) : { k with launcher := l }.markRestart c = { k with launcher := l } :=
      markRestart_of_free h
    rw [launch_of_error (hasked ▸ ha), ht, hfree, hasked]
    rfl
  | ok child =>
    have ht : t = _ := launch_of_ok ha
    rw [launch_of_ok (hasked ▸ ha), ht, install_restart, hasked]
    rfl

/-! ### Moves -/

theorem move_restart (hopen : k.shutDown = false) (he : k.registry.get c = some e) :
    let t := (k.dismiss c e).launch c (s.choose (.restart false))
    k.move (.serve n (.start c (s.choose (.restart true)))) = (t.state.markRestart c,
      .logged (.superseded c e.pid e.spec.source) :: t.trace ++
        [.answered n (.ofResult t.answer)]) := by
  have hfree : (k.dismiss c e).registry.get c = none := by simp [dismiss]
  have hflag : (s.choose (.restart true)).restart = true := rfl
  simp only [move, serve, start_of_restart hopen he hflag, launch_restart hfree, Option.map_some,
    Option.toList_some]

theorem after_restart (hopen : k.shutDown = false) (he : k.registry.get c = some e) :
    k.after [.serve n (.start c (s.choose (.restart true)))] =
      (k.after [.serve n (.stop c),
        .serve (n + 1) (.start c (s.choose (.restart false)))]).markRestart c := by
  have hfree : (k.dismiss c e).registry.get c = none := by simp [dismiss]
  have hopen' : (k.dismiss c e).shutDown = false := by simpa [dismiss] using hopen
  simp only [after_cons, after_nil, move_restart hopen he, move_stop he,
    move_start_of_free hopen' hfree]

theorem trace_restart (hopen : k.shutDown = false) (he : k.registry.get c = some e) :
    let t := (k.vacate c).launch c (s.choose (.restart false))
    k.trace [.serve n (.start c (s.choose (.restart true)))] =
        .logged (.superseded c e.pid e.spec.source) :: t.trace ++
          [.answered n (.ofResult t.answer)] ∧
      k.trace [.serve n (.stop c), .serve (n + 1) (.start c (s.choose (.restart false)))] =
        .logged (.stopRequested c e.pid) :: .answered n .done :: t.trace ++
          [.answered (n + 1) (.ofResult t.answer)] := by
  have hvacate : k.vacate c = k.dismiss c e := by simp only [vacate, he]
  have hfree : (k.dismiss c e).registry.get c = none := by simp [dismiss]
  have hopen' : (k.dismiss c e).shutDown = false := by simpa [dismiss] using hopen
  simp only [trace_cons, trace_nil, move_restart hopen he, move_stop he,
    move_start_of_free hopen' hfree, hvacate, List.cons_append, List.append_nil, List.nil_append,
    true_and]

theorem move_restart_of_free (hopen : k.shutDown = false) (hfree : k.registry.get c = none) :
    k.move (.serve n (.start c (s.choose (.restart true)))) =
      ((k.move (.serve n (.start c (s.choose (.restart false))))).1.markRestart c,
        (k.move (.serve n (.start c (s.choose (.restart false))))).2) := by
  simp only [move_start_of_free hopen hfree, launch_restart hfree]

theorem launch_called (k : Supervisor Script) (c : Channel) (s : StreamSpec) :
    let t := k.launch c s
    ∃ failed, t.trace.filterMap Happening.launch? =
        [k.launchRecord c (arguments k.settings c s) failed] ∧
      (failed = false ∧ t.answer = .ok () ∨
        failed = true ∧ ∃ fault, t.answer = .error (.launchFailed c fault)) := by
  intro t
  cases ha : (k.asked c s).child with
  | error fault =>
    have ht : t = _ := launch_of_error ha
    refine ⟨true, ?_, .inr ⟨rfl, fault, by rw [ht]⟩⟩
    simp [ht, List.filterMap_map, Function.comp_def, Happening.launch?]
  | ok child =>
    have ht : t = _ := launch_of_ok ha
    refine ⟨false, ?_, .inl ⟨rfl, by rw [ht]⟩⟩
    simp [ht, List.filterMap_map, Function.comp_def, Happening.launch?]

end Supervisor

namespace Session

open Supervisor

variable {x : Session Script} {calls calls' : List Call} {c : Channel} {e : Entry} {key : String}
  {s : StreamSpec} {t u : Turn (Session Script) StepAnswer}

/-- A turn leaves what another leaves, but for the flag of what a channel shows and for how many
calls were issued. What is seen of it differs only in the calls answered and in the log. -/
structure RestartOf (c : Channel) (t u : Turn (Session Script) StepAnswer) : Prop where
  state : t.state = { u.state with
    supervisor := u.state.supervisor.markRestart c, issued := t.state.issued }
  report : Report.ofTurn t = { Report.ofTurn u with
    done := (Report.ofTurn t).done, log := (Report.ofTurn t).log }

theorem Served.restartOf (ht : x.Served calls t) (hu : x.Served calls' u)
    (hafter : x.atTurn.after (serves x.issued calls) =
      (x.atTurn.after (serves x.issued calls')).markRestart c)
    (hlaunch : (x.atTurn.trace (serves x.issued calls)).filterMap Happening.launch? =
      (x.atTurn.trace (serves x.issued calls')).filterMap Happening.launch?)
    (hreaped : (x.atTurn.trace (serves x.issued calls)).filterMap Happening.reaped? =
      (x.atTurn.trace (serves x.issued calls')).filterMap Happening.reaped?)
    (hanswer : t.answer = u.answer) : RestartOf c t u := by
  have hsup : t.state.supervisor = u.state.supervisor.markRestart c := by
    rw [ht.supervisor, hu.supervisor, hafter, move_settle_markRestart]
  have hpending : t.state.supervisor.pending = u.state.supervisor.pending := by rw [hsup]; rfl
  have hstate : t.state = { u.state with
      supervisor := u.state.supervisor.markRestart c, issued := t.state.issued } := by
    have h := ht.state_eq hu hpending
    rw [hsup] at h
    rw [h]
  have hwaiting : t.state.waiting = u.state.waiting := by rw [hstate]; rfl
  have hclosing : x.closing (x.atTurn.after (serves x.issued calls)) =
      x.closing (x.atTurn.after (serves x.issued calls')) := by rw [hafter]; rfl
  refine ⟨hstate, ?_⟩
  simp only [Report.ofTurn, ht.trace, hu.trace, List.filterMap_append, hlaunch, hreaped, hclosing,
    hanswer, hwaiting, hsup, list_markRestart]
  rfl

theorem Served.restart_of_occupied (hkey : Channel.ofKey? key = some c)
    (hspec : s.complaint? = none) (hopen : x.atTurn.shutDown = false)
    (he : x.atTurn.registry.get c = some e)
    (ht : x.Served [.start key (s.choose (.restart true))] t)
    (hu : x.Served [.stop key, .start key (s.choose (.restart false))] u)
    (hanswer : t.answer = u.answer) :
    let launch := (x.atTurn.vacate c).launch c (s.choose (.restart false))
    let a := Answer.ofResult launch.answer
    RestartOf c t u ∧ ∃ later,
      t.trace = x.ahead ++ .logged (.superseded c e.pid e.spec.source) ::
        launch.trace ++ .answered x.issued a :: later ∧
      u.trace = x.ahead ++ .logged (.stopRequested c e.pid) :: .answered x.issued .done ::
        launch.trace ++ .answered (x.issued + 1) a :: later := by
  intro launch a
  have hagain (n : Nat) : serves n [.start key (s.choose (.restart true))] =
      [.serve n (.start c (s.choose (.restart true)))] := serves_start hkey (by exact hspec) n []
  have hanew (n : Nat) : serves n [.stop key, .start key (s.choose (.restart false))] =
      [.serve n (.stop c), .serve (n + 1) (.start c (s.choose (.restart false)))] := by
    rw [serves_stop hkey, serves_start hkey (by exact hspec)]
    rfl
  obtain ⟨htrace, htrace'⟩ := trace_restart (n := x.issued) (s := s) hopen he
  have hafter := after_restart (n := x.issued) (s := s) hopen he
  rw [← hagain] at hafter htrace
  rw [← hanew] at hafter htrace'
  refine ⟨ht.restartOf hu hafter ?_ ?_ hanswer,
    x.closing (x.atTurn.after (serves x.issued
      [.stop key, .start key (s.choose (.restart false))])), ?_, ?_⟩
  · rw [htrace, htrace']
    simp [List.filterMap_cons, Happening.launch?]
  · rw [htrace, htrace']
    simp [List.filterMap_cons, Happening.reaped?]
  · rw [ht.trace, htrace, hafter]
    simp only [launch, a, List.cons_append, List.append_assoc, List.nil_append]
    rfl
  · rw [hu.trace, htrace']
    simp only [launch, a, List.cons_append, List.append_assoc, List.nil_append]

theorem Served.restart_of_free (hkey : Channel.ofKey? key = some c) (hspec : s.complaint? = none)
    (hopen : x.atTurn.shutDown = false) (hfree : x.atTurn.registry.get c = none)
    (ht : x.Served [.start key (s.choose (.restart true))] t)
    (hu : x.Served [.start key (s.choose (.restart false))] u) (hanswer : t.answer = u.answer) :
    RestartOf c t u ∧ t.trace = u.trace ∧ Report.ofTurn t = Report.ofTurn u := by
  have hserves (b : Bool) (n : Nat) : serves n [.start key (s.choose (.restart b))] =
      [.serve n (.start c (s.choose (.restart b)))] := serves_start hkey (by exact hspec) n []
  have hmove := move_restart_of_free (n := x.issued) (s := s) hopen hfree
  have hafter : x.atTurn.after (serves x.issued [.start key (s.choose (.restart true))]) =
      (x.atTurn.after (serves x.issued
        [.start key (s.choose (.restart false))])).markRestart c := by
    rw [hserves, hserves, after_cons, hmove]
    rfl
  have hsame : x.atTurn.trace (serves x.issued [.start key (s.choose (.restart true))]) =
      x.atTurn.trace (serves x.issued [.start key (s.choose (.restart false))]) := by
    rw [hserves, hserves, Supervisor.trace_cons, hmove]
    rfl
  have htrace : t.trace = u.trace := by
    rw [ht.trace, hu.trace, hsame, hafter]
    rfl
  have hrestart : RestartOf c t u := ht.restartOf hu hafter (by rw [hsame]) (by rw [hsame]) hanswer
  refine ⟨hrestart, htrace, hrestart.report.trans ?_⟩
  simp only [Report.ofTurn, htrace]

theorem shutDown_atTurn (x : Session Script) : x.atTurn.shutDown = x.supervisor.shutDown := by
  refine after_induction (P := fun k => k.shutDown = x.supervisor.shutDown) rfl ?_
  rintro m hm k hk
  obtain ⟨p, -, rfl⟩ := List.mem_map.mp hm
  exact (k.serve_shutDown p.2).trans hk

/-- **A restart is a stop and a start.** While nothing was shut down, a restart on a channel that
shows a stream launches what a stop of the channel and a start launch one after the other, with the
same tokens fired, and has the same answer. They leave the same behind, but for the flag in the new
entry. The log has the old stream as superseded for the one, and as asked to stop for the other. On
a channel that shows nothing, a restart and a start agree in everything. This holds for calls that
are served at once, and for those that have to wait until the registry is given back. -/
theorem restart_is_stop_then_start (g : Settings) (steps : List Step) {key : String}
    {c : Channel} {s : StreamSpec} (hkey : Channel.ofKey? key = some c)
    (hspec : s.complaint? = none) (hopen : ((fresh g).run steps).supervisor.shutDown = false) :
    let x := (fresh g).run steps
    let k := x.atTurn
    let launch := (k.vacate c).launch c (s.choose (.restart false))
    let a := Answer.ofResult launch.answer
    let t := x.carryOut (.call (.start key (s.choose (.restart true))))
    (∀ e, k.registry.get c = some e →
      let u := x.carryOut (.batch [.stop key, .start key (s.choose (.restart false))])
      RestartOf c t u ∧ ∃ later,
        t.trace = x.ahead ++ .logged (.superseded c e.pid e.spec.source) ::
          launch.trace ++ .answered x.issued a :: later ∧
        u.trace = x.ahead ++ .logged (.stopRequested c e.pid) :: .answered x.issued .done ::
          launch.trace ++ .answered (x.issued + 1) a :: later) ∧
    (k.registry.get c = none →
      let u := x.carryOut (.call (.start key (s.choose (.restart false))))
      RestartOf c t u ∧ t.trace = u.trace ∧ Report.ofTurn t = Report.ofTurn u) ∧
    ∃ failed, launch.trace.filterMap Happening.launch? =
        [(k.vacate c).launchRecord c (arguments k.settings c s) failed] ∧
      (failed = false ∧ a = .done ∨
        failed = true ∧ ∃ fault, a = .refused (.launchFailed c fault)) := by
  intro x k launch a t
  have hopen : k.shutDown = false := x.shutDown_atTurn.trans hopen
  have hasking (b : Bool) : (Call.start key (s.choose (.restart b))).Asking := by
    have hb : (s.choose (.restart b)).complaint? = none := hspec
    simp [Call.Asking, Call.request?, hkey, hb]
  have hcall (b : Bool) : x.Served [.start key (s.choose (.restart b))]
      (x.carryOut (.call (.start key (s.choose (.restart b))))) := served_call g steps (hasking b)
  have hbatch : x.Served [.stop key, .start key (s.choose (.restart false))]
      (x.carryOut (.batch [.stop key, .start key (s.choose (.restart false))])) := by
    have hstop : (Call.stop key).Asking := by simp [Call.Asking, Call.request?, hkey]
    exact served_carryOut g steps (by simp [hstop, hasking])
  have hnone (b : Bool) : (x.carryOut (.call (.start key (s.choose (.restart b))))).answer =
      .none := by
    rw [carryOut_call, carryOut_answer]
  refine ⟨fun e he => ?_, fun hfree => ?_, ?_⟩
  · exact (hcall true).restart_of_occupied hkey hspec hopen he hbatch
      ((hnone true).trans (carryOut_answer ..).symm)
  · exact (hcall true).restart_of_free hkey hspec hopen hfree (hcall false)
      ((hnone true).trans (hnone false).symm)
  · obtain ⟨failed, hcalled, h⟩ := (k.vacate c).launch_called c (s.choose (.restart false))
    refine ⟨failed, ?_, ?_⟩
    · rw [hcalled, (k.withdrawn_vacate c).settings]
      rfl
    · rcases h with ⟨hf, ha⟩ | ⟨hf, fault, ha⟩
      · exact .inl ⟨hf, by simp only [a, launch, ha]; rfl⟩
      · exact .inr ⟨hf, fault, by simp only [a, launch, ha]; rfl⟩

/-- A process that ignores its token is in the way of a restart that fails. The registry is held,
and somebody else is in line for it. -/
theorem restart_is_stop_then_start_held :
    let s : StreamSpec := { source := "tone" }
    let steps : List Step := [.script [.succeed .numbered .untilTold, .fail { kind := .notFound }],
      .call (.start "audio" s), .hold, .call .list]
    let x := (fresh {}).run steps
    let t := x.carryOut (.call (.start " AUDIO" (s.choose (.restart true))))
    let u := x.carryOut (.batch [.stop " AUDIO", .start " AUDIO" (s.choose (.restart false))])
    Channel.ofKey? " AUDIO" = some .audio ∧ s.complaint? = none ∧ x.supervisor.shutDown = false ∧
      RestartOf .audio t u ∧ t.state.supervisor.registry = {} ∧
      t.trace.filterMap (·.event?) = [.superseded .audio (some 1000) "tone",
        .launchFailed .audio "tone" { kind := .notFound }] ∧
      u.trace.filterMap (·.event?) = [.stopRequested .audio (some 1000),
        .launchFailed .audio "tone" { kind := .notFound }] := by
  intro s steps x t u
  have hkey : Channel.ofKey? " AUDIO" = some .audio := by decide
  have hspec : s.complaint? = none := by decide
  have hopen : ((fresh {}).run steps).supervisor.shutDown = false := by decide
  obtain ⟨e, he⟩ : ∃ e, x.atTurn.registry.get .audio = some e :=
    Option.isSome_iff_exists.mp (by decide)
  have hoccupied := (restart_is_stop_then_start {} steps hkey hspec hopen).1
  exact ⟨hkey, hspec, by decide, (hoccupied e he).1, by decide, by decide, by decide⟩

end Session
end StreamSupervisor
