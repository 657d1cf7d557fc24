import StreamSupervisor.Proofs.Supervisor.Failure

/-! # Calls that are done

A start that is done launches one process and shows it on its channel, and a stop that is done
leaves its channel empty. Either fires the token of what the channel showed. Nothing else that
there was is touched: no other token, no other process, and not the other channel.
-/

namespace StreamSupervisor

namespace Supervisor

variable {k k₁ k' : Supervisor Script} {key : String} {spec : StreamSpec} {c : Channel}

/-- Of what there was, nothing has changed but what a channel shows and the token behind it,
which has fired. -/
structure Confined (c : Channel) (k k' : Supervisor Script) : Prop where
  token : ∀ e, k.registry.get c = some e → k'.fired? e.owner = some true
  tokens : ∀ o b, k.fired? o = some b → k.owner? c ≠ some o → k'.fired? o = some b
  processes : (k'.processes.take k.processes.length).map Process.unfired =
    k.processes.map Process.unfired
  registry : ∀ d, d ≠ c → k'.registry.get d = k.registry.get d
  shutDown : k'.shutDown = k.shutDown

/-- A process was launched on a channel, for which the launcher was called once, and is shown
there now. Its token has not fired. -/
structure StartDone (k : Supervisor Script) (c : Channel) (s : StreamSpec)
    (k' : Supervisor Script) (trace : List Happening) : Prop extends Confined c k k' where
  called : trace.filterMap Happening.launch? =
    [(k.vacate c).launchRecord c (arguments k.settings c s) false]
  script : k'.launcher.launches = k.launcher.launches.tail
  child : ∃ pid course, k.launcher.next = .succeed pid course ∧
    k'.processes[k.processes.length]? = some
      { channel := c, arguments := arguments k.settings c s
        pid := pid.resolve k.processes.length, course := course, fired := false, exit := none } ∧
    k'.registry.get c = some
      { pid := pid.resolve k.processes.length, spec := s, sink := outputSink k.settings c s
        owner := .process k.processes.length }
  length : k'.processes.length = k.processes.length + 1
  guests : k'.guests.length = k.guests.length
  pending : k'.pending = k.pending + 1

structure StopDone (k : Supervisor Script) (c : Channel) (k' : Supervisor Script)
    (trace : List Happening) : Prop extends Confined c k k' where
  occupied : k.registry.get c ≠ none
  empty : k'.registry.get c = none
  called : ∀ record, .launched record ∉ trace
  launcher : k'.launcher = k.launcher
  length : k'.processes.length = k.processes.length
  guests : k'.guests.length = k.guests.length
  pending : k'.pending = k.pending

theorem Withdrawn.length_guests {cs : Channel → Bool} (hw : Withdrawn cs k k') :
    k'.guests.length = k.guests.length := by
  have iff {j : Nat} (l : List Bool) : j < l.length ↔ l[j]?.isSome = true := by simp
  have hlt (j : Nat) : j < k'.guests.length ↔ j < k.guests.length := by
    rw [iff, iff, hw.guests, Option.isSome_map]
  have := hlt k.guests.length
  have := hlt k'.guests.length
  omega

theorem Withdrawn.confined (hk : k.Grounded) (hw : Withdrawn (fun d => decide (d = c)) k k₁)
    (hp : k₁.processes <+: k'.processes) (hg : k'.guests = k₁.guests)
    (hr : ∀ d, d ≠ c → k'.registry.get d = k₁.registry.get d)
    (hs : k'.shutDown = k₁.shutDown) : Confined c k k' := by
  have hkept (o : Owner) (b : Bool) (hb : k₁.fired? o = some b) : k'.fired? o = some b := by
    cases o with
    | process i =>
      obtain ⟨later, hp⟩ := hp
      obtain ⟨p, hi, rfl⟩ := Option.map_eq_some_iff.mp hb
      rw [Supervisor.fired?, ← hp, List.getElem?_append_left (List.getElem?_eq_some_iff.mp hi).1,
        hi, Option.map_some]
    | guest j => exact (congrArg (·[j]?) hg).trans hb
  exact
    { token := fun e he => by
        obtain ⟨b, hb⟩ := (hk c e he).fired?
        exact hkept _ _ (by rw [hw.fired?, hb, ownedIn_single]; simp [owner?, he])
      tokens := fun o b hb ho => hkept o b (by rw [hw.fired?, hb, ownedIn_single]; simp [ho])
      processes := by
        rw [← hw.length_processes, ← List.prefix_iff_eq_take.mp hp]
        exact hw.map_processes fun _ => rfl
      registry := fun d hd => by rw [hr d hd, hw.registry]; simp [hd]
      shutDown := hs.trans hw.shutDown }

theorem startDone_start (hk : k.Grounded) (hl : k.launches (.start c spec) = true)
    (hn : ∀ fault, k.launcher.next ≠ .fail fault) :
    k.StartDone c spec (k.start c spec).state (k.start c spec).trace := by
  have hw := k.withdrawn_vacate c
  have hlen := hw.length_processes
  have hfree : k.shutDown = false := by
    simpa using (Bool.and_eq_true_iff.mp hl).1
  obtain ⟨pid, course, hnext⟩ : ∃ pid course, k.launcher.next = .succeed pid course := by
    cases hnext : k.launcher.next with
    | succeed pid course => exact ⟨pid, course, rfl⟩
    | fail fault => exact (hn fault hnext).elim
  have ha : ((k.vacate c).asked c spec).child =
      .ok ⟨pid.resolve k.processes.length, course⟩ := by
    simp [asked, Launcher.launch, hw.launcher, hnext, hlen]
  obtain ⟨events, hs⟩ := start_of_launches hl
  rw [hs, launch_of_ok ha]
  exact
    { toConfined := hw.confined hk ⟨_, rfl⟩ rfl
        (fun d hd => by simp [install, Slots.get_set, hd.symm]) rfl
      called := by
        simp [List.filterMap_map, Function.comp_def, Happening.launch?, hw.settings]
      script := by simp [install, asked, Launcher.launch, hw.launcher]
      child := ⟨pid, course, hnext, by
          simp [install, ← hlen, hw.settings, hw.shutDown, hfree], by
          simp [install, hlen, hw.settings]⟩
      length := by simp [install, hlen]
      guests := hw.length_guests
      pending := by
        rw [← pending_eq_of_map_unfired (hw.map_processes fun _ => rfl)]
        simp [install, pending, Process.isAlive] }

theorem stopDone_stop (hk : k.Grounded) (hc : k.registry.get c ≠ none) :
    k.StopDone c (k.stop c).state (k.stop c).trace := by
  obtain ⟨e, he⟩ := Option.ne_none_iff_exists'.mp hc
  have hw := withdrawn_dismiss he
  have hs : k.stop c = ⟨k.dismiss c e, [.logged (.stopRequested c e.pid)], .ok ()⟩ := by
    simp only [stop, he]
  rw [hs]
  exact
    { toConfined := hw.confined hk List.prefix_rfl rfl (fun _ _ => rfl) rfl
      occupied := hc
      empty := by simp [hw.registry]
      called := by simp
      launcher := hw.launcher
      length := hw.length_processes
      guests := hw.length_guests
      pending := pending_eq_of_map_unfired (hw.map_processes fun _ => rfl) }

theorem startDone_of_done (hk : k.Grounded)
    (ha : (k.respond (.start key spec)).answer = some .done) :
    ∃ c, Channel.ofKey? key = some c ∧ k.StartDone c spec (k.respond (.start key spec)).state
      (k.respond (.start key spec)).trace := by
  cases hkey : Channel.ofKey? key with
  | none =>
    rw [respond_start_of_key hkey] at ha
    cases ha
  | some c =>
    refine ⟨c, rfl, ?_⟩
    cases hspec : spec.complaint? with
    | some complaint =>
      rw [respond_start_of_complaint hkey hspec] at ha
      cases ha
    | none =>
      rw [respond_start hkey hspec] at ha ⊢
      simp only [serve] at ha
      cases hl : k.launches (.start c spec) with
      | false =>
        obtain ⟨event, error, hs⟩ := start_of_not_launches hl
        rw [hs] at ha
        cases ha
      | true =>
        rcases start_answer_of_launches hl with ⟨-, hn⟩ | ⟨fault, hs, -⟩
        · exact startDone_start hk hl hn
        · rw [hs] at ha
          cases ha

theorem stopDone_of_done (hk : k.Grounded) (ha : (k.respond (.stop key)).answer = some .done) :
    ∃ c, Channel.ofKey? key = some c ∧
      k.StopDone c (k.respond (.stop key)).state (k.respond (.stop key)).trace := by
  rcases k.respond_stop_cases key with ⟨-, hu⟩ | ⟨c, hkey, ⟨-, hu⟩ | ⟨hc, -⟩⟩
  · rw [hu] at ha
    cases ha
  · rw [hu] at ha
    cases ha
  · exact ⟨c, hkey, respond_stop hkey ▸ stopDone_stop hk hc⟩

end Supervisor

namespace Session

open Supervisor

/-- **Calls that are done touch only what they name.** In any state that moves lead to, a start
that is done has called the launcher once and used up one launch. It has added one process, that
nobody has asked to stop and that is waited for, and shows it on the channel of its key. The token
of what the channel showed has fired. A stop that is done has emptied the channel of its key, and
fired the token of what it showed. All else is as it was: the other channel, every other token,
every other process, and for a stop the script and how many processes are waited for. This is how
the calls of a session are dealt with, those that had to wait for the registry as well. -/
theorem calls_touch_only_what_they_name (g : Settings) (ms : List Move) (key : String)
    (spec : StreamSpec) :
    let k := (fresh g).supervisor.after ms
    let t := k.respond (.start key spec)
    let u := k.respond (.stop key)
    (t.answer = some .done →
      ∃ c, Channel.ofKey? key = some c ∧ k.StartDone c spec t.state t.trace) ∧
    (u.answer = some .done → ∃ c, Channel.ofKey? key = some c ∧ k.StopDone c u.state u.trace) ∧
    ∀ (steps : List Step) (m : Move) (rest : List Move) (n : Nat) (call : Call),
      (fresh g).moves steps = ms ++ m :: rest → (steps.flatMap Step.calls)[n]? = some call →
      m.disposed? = some n → call ≠ .shutdown →
      ∃ a, (k.respond call).answer = some a ∧
        k.move m = ((k.respond call).state, (k.respond call).trace ++ [.answered n a]) := by
  intro k t u
  have hk : k.Grounded := (grounded_fresh g).after ms
  exact ⟨startDone_of_done hk, stopDone_of_done hk, fun steps m rest n call => move_eq_respond⟩

theorem calls_touch_only_what_they_name_superseded :
    let spec : StreamSpec := { source := "tone", restart := true }
    let ms : List Move := [.script [.succeed .numbered .untilTold],
      .serve 0 (.start .audio spec), .serve 1 (.start .audio spec),
      .guard (.set .video spec "sink"), .settle]
    let k := (fresh {}).supervisor.after ms
    let t := k.respond (.start "audio" spec)
    let u := k.respond (.stop " VIDEO")
    t.answer = some .done ∧ u.answer = some .done ∧
      k.StartDone .audio spec t.state t.trace ∧ k.StopDone .video u.state u.trace ∧
      k.processes.map (fun p => (p.fired, p.isAlive)) = [(true, true), (false, true)] ∧
      t.state.fired? (.process 1) = some true ∧ t.state.fired? (.guest 0) = some false ∧
      u.state.fired? (.process 1) = some false ∧ u.state.fired? (.guest 0) = some true := by
  intro spec ms k t u
  have ht : t.answer = some .done := by decide
  have hu : u.answer = some .done := by decide
  obtain ⟨hstart, hstop, -⟩ := calls_touch_only_what_they_name {} ms "audio" spec
  obtain ⟨c, hc, hstart⟩ := hstart ht
  have haudio : Channel.ofKey? "audio" = some .audio := by decide
  have hvideo : Channel.ofKey? " VIDEO" = some .video := by decide
  obtain rfl : .audio = c := Option.some.inj (haudio.symm.trans hc)
  obtain ⟨-, hstop, -⟩ := calls_touch_only_what_they_name {} ms " VIDEO" spec
  obtain ⟨d, hd, hstop⟩ := hstop hu
  obtain rfl : .video = d := Option.some.inj (hvideo.symm.trans hd)
  exact ⟨ht, hu, hstart, hstop, by decide, by decide, by decide, by decide, by decide⟩

end Session
end StreamSupervisor
