import StreamSupervisor.Proofs.Lock.Turn
import StreamSupervisor.Proofs.Supervisor.Entries

/-! # Stopping all streams

To stop all streams is to stop each stream that is listed, in the order of the list. Either way
the registry is empty afterwards, and the tokens of what it showed have fired.
-/

namespace StreamSupervisor

namespace Slots

variable {α : Type}

theorem get_foldl_erase (s : Slots α) (cs : List Channel) (d : Channel) :
    (cs.foldl erase s).get d = if d ∈ cs then none else s.get d := by
  induction cs generalizing s with
  | nil => simp
  | cons c cs ih =>
    rw [List.foldl_cons, ih, get_erase]
    by_cases hd : d = c <;> simp [hd, eq_comm]

theorem foldl_erase_toList (s : Slots α) : (s.toList.map (·.1)).foldl erase s = {} := by
  refine ext_get fun d => ?_
  rw [get_foldl_erase, get_empty]
  split
  · rfl
  · rename_i hd
    refine Option.eq_none_iff_forall_ne_some.mpr fun a ha => hd ?_
    exact List.mem_map.mpr ⟨(d, a), mem_toList.mpr ha, rfl⟩

end Slots

namespace Supervisor

variable {k : Supervisor Script} {n : Nat} {es : List (Channel × Entry)}

def stops (es : List (Channel × Entry)) : List Call := es.map fun p => .stop p.1.name

theorem serves_stops_cons (n : Nat) (p : Channel × Entry) (rest : List (Channel × Entry)) :
    serves n (stops (p :: rest)) = .serve n (.stop p.1) :: serves (n + 1) (stops rest) :=
  serves_stop p.1.ofKey?_name n (stops rest)

theorem dismiss_with_registry (k : Supervisor Script) (p : Channel × Entry) (r : Slots Entry) :
    { k.dismiss p.1 p.2 with registry := r } =
      ({ k with registry := r } : Supervisor Script).fire p.2.owner := by
  unfold dismiss
  cases p.2.owner <;> rfl

theorem after_stops (hes : es.Pairwise fun p q => p.1 ≠ q.1)
    (hk : ∀ p ∈ es, k.registry.get p.1 = some p.2) :
    k.after (serves n (stops es)) =
        fireEach { k with registry := (es.map (·.1)).foldl Slots.erase k.registry }
          (es.map (·.2.owner)) ∧
      k.trace (serves n (stops es)) = (es.zipIdx n).flatMap fun p =>
        [.logged (.stopRequested p.1.1 p.1.2.pid), .answered p.2 .done] := by
  induction es generalizing k n with
  | nil => exact ⟨rfl, rfl⟩
  | cons p rest ih =>
    obtain ⟨hp, hrest⟩ := List.pairwise_cons.mp hes
    obtain ⟨hshown, hk⟩ := List.forall_mem_cons.mp hk
    have hkept : ∀ q ∈ rest, (k.dismiss p.1 p.2).registry.get q.1 = some q.2 := by
      intro q hq
      simpa [dismiss, Slots.get_erase, hp q hq] using hk q hq
    obtain ⟨hafter, htrace⟩ := ih (n := n + 1) hrest hkept
    rw [serves_stops_cons, after_cons, trace_cons, move_stop hshown, hafter, htrace]
    refine ⟨?_, rfl⟩
    have hregistry : (k.dismiss p.1 p.2).registry = k.registry.erase p.1 := by simp [dismiss]
    rw [hregistry, dismiss_with_registry]
    rfl

theorem move_stopAll (k : Supervisor Script) (n : Nat) :
    k.move (.serve n .stopAll) = (k.stopAll.state,
      (k.list.map fun s => .logged (.stopRequested s.channel s.pid)) ++
        [.answered n (.count k.list.length)]) := by
  simp [move, serve, stopAll, list, statusOf, Function.comp_def]

theorem move_stopAll_of_empty (h : k.registry = {}) (n : Nat) :
    k.move (.serve n .stopAll) = (k, [.answered n (.count 0)]) := by
  have hlist : k.list = [] := by
    rw [list, h]
    rfl
  have hstate : k.stopAll.state = k := by
    have hk : { k with registry := {} } = k := by rw [← h]
    rw [stopAll_state, hk, h]
    rfl
  rw [move_stopAll, hlist, hstate]
  rfl

theorem after_stop_each (k : Supervisor Script) (n : Nat) :
    let calls := k.list.map fun s => Call.stop s.channel.name
    k.after (serves n calls) = k.stopAll.state ∧
      k.trace (serves n calls) = (k.list.zipIdx n).flatMap fun p =>
        [.logged (.stopRequested p.1.channel p.1.pid), .answered p.2 .done] := by
  intro calls
  have hcalls : calls = stops k.registry.toList := by
    simp [calls, stops, list, statusOf, Function.comp_def]
  have hdistinct : k.registry.toList.Pairwise fun p q => p.1 ≠ q.1 := by
    refine k.registry.pairwise_toList.imp fun {p q} hlt heq => ?_
    rw [heq] at hlt
    exact Nat.lt_irrefl _ hlt
  obtain ⟨hafter, htrace⟩ := after_stops (n := n) hdistinct fun p => Slots.mem_toList.mp
  rw [hcalls, hafter, htrace, Slots.foldl_erase_toList, stopAll_state]
  refine ⟨rfl, ?_⟩
  rw [list, List.zipIdx_map, List.flatMap_map]
  rfl

theorem fired?_settle (k : Supervisor Script) (o : Owner) :
    (k.move .settle).1.fired? o = k.fired? o := by
  cases o with
  | process i =>
    simp only [fired?, getElem?_settle, Option.map_map]
    congr 1
    funext p
    exact p.settle_fired 0
  | guest j => rfl

/-- Nothing is shown any more. The tokens of what was shown have fired, and no others, and nothing
was launched. -/
structure Swept (k k' : Supervisor Script) : Prop where
  registry : k'.registry = {}
  launcher : k'.launcher = k.launcher
  length : k'.processes.length = k.processes.length
  token : ∀ c e, k.registry.get c = some e → k'.fired? e.owner = some true
  tokens : ∀ o, (∀ c, k.owner? c ≠ some o) → k'.fired? o = k.fired? o

theorem swept_stopAll (hk : k.Grounded) : k.Swept (k.stopAll.state.move .settle).1 where
  registry := k.stopAll_registry
  launcher := k.withdrawn_stopAll.launcher
  length := (List.length_map _).trans k.withdrawn_stopAll.length_processes
  token c e he := by
    obtain ⟨b, hb⟩ := (hk c e he).fired?
    have howned : k.ownedIn (fun _ => true) e.owner = true :=
      ownedIn_iff.mpr ⟨c, rfl, by simp [owner?, he]⟩
    rw [fired?_settle, k.withdrawn_stopAll.fired?, hb, howned]
    simp
  tokens o ho := by
    have howned : k.ownedIn (fun _ => true) o = false := by
      rw [Bool.eq_false_iff, ne_eq, ownedIn_iff]
      rintro ⟨c, -, hc⟩
      exact ho c hc
    rw [fired?_settle, k.withdrawn_stopAll.fired?, howned]
    simp

end Supervisor

namespace Session

open Supervisor

variable {x : Session Script} {t u : Turn (Session Script) StepAnswer}

theorem serves_stopAll (n : Nat) : serves n [.stopAll] = [.serve n .stopAll] := serves_cons rfl []

theorem Served.supervisor_of_stopAll (ht : x.Served [.stopAll] t) :
    t.state.supervisor = (x.atTurn.stopAll.state.move .settle).1 := by
  rw [ht.supervisor, serves_stopAll, after_cons, move_stopAll, after_nil]

theorem filterMap_stopRequested (shown : List StreamStatus) (n : Nat) :
    ((shown.zipIdx n).flatMap fun p => [Happening.logged (.stopRequested p.1.channel p.1.pid),
        .answered p.2 .done]).filterMap Happening.event? =
      shown.map fun s => .stopRequested s.channel s.pid := by
  induction shown generalizing n with
  | nil => rfl
  | cons s rest ih =>
    rw [List.zipIdx_cons, List.flatMap_cons, List.filterMap_append, ih]
    rfl

theorem Served.stopping_each (ht : x.Served [.stopAll] t)
    (hu : x.Served (x.atTurn.list.map fun s => .stop s.channel.name) u) :
    t.state = { u.state with issued := x.issued + 1 } ∧
    t.trace.filterMap Happening.event? = u.trace.filterMap Happening.event? ∧ ∃ later,
      later.filterMap Happening.launch? = [] ∧
      t.trace = x.ahead ++ (x.atTurn.list.map fun s => .logged (.stopRequested s.channel s.pid)) ++
        .answered x.issued (.count x.atTurn.list.length) :: later ∧
      u.trace = x.ahead ++ ((x.atTurn.list.zipIdx x.issued).flatMap fun p =>
        [.logged (.stopRequested p.1.channel p.1.pid), .answered p.2 .done]) ++ later := by
  obtain ⟨hafter, htrace⟩ := x.atTurn.after_stop_each x.issued
  have hsame : t.state.supervisor = u.state.supervisor := by
    rw [ht.supervisor_of_stopAll, hu.supervisor, hafter]
  have hstate := ht.state_eq hu (congrArg pending hsame)
  rw [hsame] at hstate
  have hall : t.trace = x.ahead ++
      (x.atTurn.list.map fun s => .logged (.stopRequested s.channel s.pid)) ++
        .answered x.issued (.count x.atTurn.list.length) :: x.closing x.atTurn.stopAll.state := by
    rw [ht.trace, serves_stopAll, after_cons, Supervisor.trace_cons, move_stopAll]
    simp
  have heach : u.trace = x.ahead ++ ((x.atTurn.list.zipIdx x.issued).flatMap fun p =>
      [.logged (.stopRequested p.1.channel p.1.pid), .answered p.2 .done]) ++
        x.closing x.atTurn.stopAll.state := by
    rw [hu.trace, hafter, htrace, List.append_assoc]
  refine ⟨hstate, ?_, _, x.launch_closing _, hall, heach⟩
  have hlog : (x.atTurn.list.map fun s =>
      Happening.logged (.stopRequested s.channel s.pid)).filterMap Happening.event? =
        x.atTurn.list.map fun s => .stopRequested s.channel s.pid := by
    simp [List.filterMap_map, Function.comp_def, Happening.event?]
  simp only [hall, heach, List.filterMap_append, filterMap_stopRequested, hlog]
  rfl

theorem step_stopAll_of_empty (g : Settings) (steps : List Step)
    (hheld : ((fresh g).run steps).held = false)
    (hempty : ((fresh g).run steps).supervisor.registry = {}) :
    let x := (fresh g).run steps
    (x.step (.call .stopAll)).state = { x with issued := x.issued + 1 } ∧
      (x.step (.call .stopAll)).trace = [.answered x.issued (.count 0)] := by
  intro x
  have hmove := move_stopAll_of_empty hempty x.issued
  have hsame : x.supervisor.after (serves x.issued [.stopAll]) = x.supervisor := by
    rw [serves_stopAll, after_cons, hmove, after_nil]
  obtain ⟨hstate, htrace⟩ := step_of_unchanged g steps (by simp [Call.Asking, Call.request?])
    hheld hsame
  refine ⟨hstate, htrace.trans ?_⟩
  rw [serves_stopAll, Supervisor.trace_cons, hmove]
  rfl

/-- **To stop all streams is to stop each.** When all streams are stopped, whoever calls is told how
many were listed. All that is left behind is as if the streams had been stopped one after the other,
in the order of the list, where every stop is done. The log says the same, in the same order. The
registry is empty then, and the tokens of what it showed have fired, and no others. The launcher is
not called. To stop all streams once more stops none, and changes nothing. This holds for calls that
are served at once, and for those that have to wait until the registry is given back. -/
theorem stopping_all_is_stopping_each (g : Settings) (steps : List Step) :
    let x := (fresh g).run steps
    let k := x.atTurn
    let t := x.carryOut (.call .stopAll)
    let u := x.carryOut (.batch (k.list.map fun s => .stop s.channel.name))
    let v := t.state.step (.call .stopAll)
    t.state = { u.state with issued := x.issued + 1 } ∧
    (∃ later,
      later.filterMap Happening.launch? = [] ∧
      t.trace = x.ahead ++ (k.list.map fun s => .logged (.stopRequested s.channel s.pid)) ++
        .answered x.issued (.count k.list.length) :: later ∧
      u.trace = x.ahead ++ ((k.list.zipIdx x.issued).flatMap fun p =>
        [.logged (.stopRequested p.1.channel p.1.pid), .answered p.2 .done]) ++ later) ∧
    t.trace.filterMap Happening.event? = u.trace.filterMap Happening.event? ∧
    k.Swept t.state.supervisor ∧
    v.state = { t.state with issued := t.state.issued + 1 } ∧
    v.trace = [.answered t.state.issued (.count 0)] := by
  intro x k t u v
  have ht : x.Served [.stopAll] t := served_call g steps (by simp [Call.Asking, Call.request?])
  have hu : x.Served (k.list.map fun s => .stop s.channel.name) u := by
    refine served_carryOut g steps fun call hcall => ?_
    obtain ⟨s, -, rfl⟩ := List.mem_map.mp hcall
    simp [Call.Asking, Call.request?]
  have hgrounded : k.Grounded :=
    (run_supervisor _ _ ▸ (grounded_fresh g).after _ : x.supervisor.Grounded).after _
  have hswept : k.Swept t.state.supervisor :=
    ht.supervisor_of_stopAll ▸ swept_stopAll hgrounded
  obtain ⟨hstate, hlog, later, hlaunch, htrace, htrace'⟩ := ht.stopping_each hu
  obtain ⟨rest, hrun⟩ := x.carryOut_state (.call .stopAll)
  have hreach : t.state = (fresh g).run (steps ++ .call .stopAll :: rest) := by
    rw [run_append]
    exact hrun
  have hheld : t.state.held = false := congrArg Line.held ht.line
  have hempty := hswept.registry
  have hagain : v.state = { t.state with issued := t.state.issued + 1 } ∧
      v.trace = [.answered t.state.issued (.count 0)] := by
    simp only [v]
    rw [hreach] at hheld hempty ⊢
    exact step_stopAll_of_empty g _ hheld hempty
  exact ⟨hstate, ⟨later, hlaunch, htrace, htrace'⟩, hlog, hswept, hagain⟩

/-- After a shutdown there are guests on both channels, one of them with its token fired. A guest
that was taken out before is let alone. -/
theorem stopping_all_is_stopping_each_guests :
    let spec : StreamSpec := { source := "tone" }
    let steps : List Step := [.call (.start "audio" spec), .call .shutdown, .hold,
      .guard (.set .audio spec "sink"), .guard (.delete .audio), .guard (.set .audio spec "sink"),
      .guard (.set .video spec "sink"), .guard (.cancel .video), .call .len]
    let x := (fresh {}).run steps
    let t := x.carryOut (.call .stopAll)
    let u := x.carryOut (.batch (x.atTurn.list.map fun s => .stop s.channel.name))
    t.state = { u.state with issued := x.issued + 1 } ∧ x.atTurn.Swept t.state.supervisor ∧
      x.supervisor.guests = [false, false, true] ∧
      t.state.supervisor.guests = [false, true, true] ∧
      t.trace.filterMap (·.answer?) = [(2, .count 2), (3, .count 2)] ∧
      u.trace.filterMap (·.answer?) = [(2, .count 2), (3, .done), (4, .done)] := by
  intro spec steps
  have hall := stopping_all_is_stopping_each {} steps
  exact ⟨hall.1, hall.2.2.2.1, by decide, by decide, by decide, by decide⟩

end Session
end StreamSupervisor
