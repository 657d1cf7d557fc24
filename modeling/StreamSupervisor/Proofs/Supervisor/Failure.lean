import StreamSupervisor.Proofs.Lock.Account
import StreamSupervisor.Proofs.Supervisor.Entries

/-! # Calls that fail

A start fails for the first of the reasons that stand against it, in a fixed order, and a
stop for want of a stream. Whoever is refused has changed nothing. Only a launch that fails
leaves something behind: its channel is empty.
-/

namespace StreamSupervisor

def StreamError.rank : StreamError → Nat
  | invalidChannel _ => 0
  | invalidSpec _ => 1
  | shutDown => 2
  | alreadyRunning _ => 3
  | launchFailed .. => 4
  | notRunning _ => 5

def Process.unfired (p : Process) : Process := { p with fired := false }

namespace Supervisor

variable {k : Supervisor Script} {key : String} {spec : StreamSpec} {c : Channel}
  {e e' : StreamError} {call : Call} {r : Request} {fault : Fault} {n : Nat} {m : Move}

/-- What a call comes to if nobody else has the registry. -/
def respond (k : Supervisor Script) (call : Call) : Turn (Supervisor Script) (Option Answer) :=
  match (k.announce call).check call with
  | .answered a => ⟨k.announce call, [], some a⟩
  | .queued r => (k.announce call).serve r

/-- What stands against a start of a spec under a key. -/
def Against (k : Supervisor Script) (key : String) (spec : StreamSpec) : StreamError → Prop
  | .invalidChannel text => text = key ∧ Channel.ofKey? key = none
  | .invalidSpec complaint => spec.complaint? = some complaint
  | .shutDown => k.shutDown = true
  | .alreadyRunning c =>
    Channel.ofKey? key = some c ∧ k.registry.get c ≠ none ∧ spec.restart = false
  | .launchFailed c fault => Channel.ofKey? key = some c ∧ k.launcher.next = .fail fault
  | .notRunning _ => False

/-- What stands against a start before all else. -/
def FirstAgainst (k : Supervisor Script) (key : String) (spec : StreamSpec) (e : StreamError) :
    Prop :=
  k.Against key spec e ∧ ∀ e', k.Against key spec e' → e.rank ≤ e'.rank

theorem Against.eq_of_rank_eq (h : k.Against key spec e) (h' : k.Against key spec e')
    (hr : e.rank = e'.rank) : e = e' := by
  cases e <;> cases e' <;> simp_all [Against, StreamError.rank]

theorem FirstAgainst.unique (h : k.FirstAgainst key spec e) (h' : k.FirstAgainst key spec e') :
    e = e' :=
  h.1.eq_of_rank_eq h'.1 (Nat.le_antisymm (h.2 e' h'.1) (h'.2 e h.1))

/-! ### Answers -/

theorem respond_of_request (h : call ≠ .shutdown) (hr : call.request? = some r) :
    k.respond call = k.serve r := by
  simp only [respond, announce_of_ne_shutdown h, Call.check_eq_queued_iff.mpr hr]

theorem respond_start_of_key (h : Channel.ofKey? key = none) :
    k.respond (.start key spec) = ⟨k, [], some (.refused (.invalidChannel key))⟩ := by
  simp [respond, announce, check, Admission.onChannel, Channel.ofKey, h, bind, Except.bind]

theorem respond_start_of_complaint {complaint : String} (h : Channel.ofKey? key = some c)
    (hs : spec.complaint? = some complaint) :
    k.respond (.start key spec) = ⟨k, [], some (.refused (.invalidSpec complaint))⟩ := by
  simp [respond, announce, check, Admission.onChannel, Channel.ofKey, StreamSpec.validate, h, hs,
    bind, Except.bind, Except.map]

theorem respond_start (h : Channel.ofKey? key = some c) (hs : spec.complaint? = none) :
    k.respond (.start key spec) = k.serve (.start c spec) :=
  respond_of_request (by simp) (by simp [Call.request?, h, hs])

theorem respond_stop_of_key (h : Channel.ofKey? key = none) :
    k.respond (.stop key) = ⟨k, [], some (.refused (.invalidChannel key))⟩ := by
  simp [respond, announce, check, Admission.onChannel, Channel.ofKey, h, bind, Except.bind]

theorem respond_stop (h : Channel.ofKey? key = some c) :
    k.respond (.stop key) = k.serve (.stop c) :=
  respond_of_request (by simp) (by simp [Call.request?, h])

theorem asked_eq_error_iff :
    (k.asked c spec).child = .error fault ↔ k.launcher.next = .fail fault := by
  simp only [asked, Launcher.launch]
  cases k.launcher.next <;> simp

theorem start_answer_of_launches (hl : k.launches (.start c spec) = true) :
    (k.start c spec).answer = .ok () ∧ (∀ fault, k.launcher.next ≠ .fail fault) ∨
      ∃ fault, (k.start c spec).answer = .error (.launchFailed c fault) ∧
        k.launcher.next = .fail fault := by
  obtain ⟨_, hs⟩ := start_of_launches hl
  have hv : (k.vacate c).launcher = k.launcher := (k.withdrawn_vacate c).launcher
  cases ha : ((k.vacate c).asked c spec).child with
  | ok child =>
    rw [hs, launch_of_ok ha]
    refine .inl ⟨rfl, fun fault hf => ?_⟩
    rw [← hv] at hf
    cases ha.symm.trans (asked_eq_error_iff.mpr hf)
  | error fault =>
    rw [hs, launch_of_error ha]
    exact .inr ⟨fault, rfl, hv ▸ asked_eq_error_iff.mp ha⟩

theorem respond_start_cases (k : Supervisor Script) (key : String) (spec : StreamSpec) :
    (∃ e, k.FirstAgainst key spec e ∧ (k.respond (.start key spec)).answer = some (.refused e)) ∨
      (∀ e, ¬ k.Against key spec e) ∧ (k.respond (.start key spec)).answer = some .done := by
  cases hkey : Channel.ofKey? key with
  | none =>
    exact .inl ⟨.invalidChannel key, ⟨⟨rfl, hkey⟩, fun _ _ => Nat.zero_le _⟩,
      by rw [respond_start_of_key hkey]⟩
  | some c =>
    cases hspec : spec.complaint? with
    | some complaint =>
      refine .inl ⟨.invalidSpec complaint, ⟨hspec, fun e he => ?_⟩,
        by rw [respond_start_of_complaint hkey hspec]⟩
      cases e <;> simp_all [Against, StreamError.rank]
    | none =>
      rw [respond_start hkey hspec]
      simp only [serve]
      cases hk : k.shutDown with
      | true =>
        refine .inl ⟨.shutDown, ⟨hk, fun e he => ?_⟩, by rw [start_of_shutDown hk]; rfl⟩
        cases e <;> simp_all [Against, StreamError.rank]
      | false =>
        cases hl : k.launches (.start c spec) with
        | false =>
          obtain ⟨hr, e, he⟩ : spec.restart = false ∧ ∃ e, k.registry.get c = some e := by
            simpa [launches, hk, Slots.contains, Option.isSome_iff_exists] using hl
          refine .inl ⟨.alreadyRunning c, ⟨⟨hkey, by simp [he], hr⟩, fun e he => ?_⟩,
            by rw [start_of_occupied hk he hr]; rfl⟩
          cases e <;> simp_all [Against, StreamError.rank]
        | true =>
          have hfree : k.registry.get c ≠ none → spec.restart ≠ false := by
            intro hc hr
            simp [launches, hk, hr, Slots.contains, hc] at hl
          rcases start_answer_of_launches hl with ⟨ha, hn⟩ | ⟨fault, ha, hn⟩
          · refine .inr ⟨fun e he => ?_, by rw [ha]; rfl⟩
            cases e <;> simp_all [Against]
          · refine .inl ⟨.launchFailed c fault, ⟨⟨hkey, hn⟩, fun e he => ?_⟩, by rw [ha]; rfl⟩
            cases e <;> simp_all [Against, StreamError.rank]

theorem respond_start_refused_iff :
    (k.respond (.start key spec)).answer = some (.refused e) ↔ k.FirstAgainst key spec e := by
  rcases k.respond_start_cases key spec with ⟨e₀, hfirst, ha⟩ | ⟨hnone, ha⟩ <;> rw [ha]
  · refine ⟨fun h => ?_, fun h => by rw [hfirst.unique h]⟩
    obtain rfl : e₀ = e := by simpa using h
    exact hfirst
  · exact ⟨fun h => (by cases h), fun h => (hnone e h.1).elim⟩

theorem respond_start_done_iff :
    (k.respond (.start key spec)).answer = some .done ↔ ∀ e, ¬ k.Against key spec e := by
  rcases k.respond_start_cases key spec with ⟨e₀, hfirst, ha⟩ | ⟨hnone, ha⟩ <;> rw [ha]
  · exact ⟨fun h => (by cases h), fun h => (h e₀ hfirst.1).elim⟩
  · exact ⟨fun _ => hnone, fun _ => rfl⟩

theorem respond_stop_cases (k : Supervisor Script) (key : String) :
    (Channel.ofKey? key = none ∧
        k.respond (.stop key) = ⟨k, [], some (.refused (.invalidChannel key))⟩) ∨
      ∃ c, Channel.ofKey? key = some c ∧
        (k.registry.get c = none ∧ k.respond (.stop key) =
            ⟨k, [.logged (.refusedNotRunning c)], some (.refused (.notRunning c))⟩ ∨
          k.registry.get c ≠ none ∧ (k.respond (.stop key)).answer = some .done) := by
  cases hkey : Channel.ofKey? key with
  | none => exact .inl ⟨rfl, respond_stop_of_key hkey⟩
  | some c =>
    refine .inr ⟨c, rfl, ?_⟩
    rw [respond_stop hkey]
    simp only [serve, stop]
    cases k.registry.get c with
    | none => exact .inl ⟨rfl, rfl⟩
    | some e => exact .inr ⟨by simp, rfl⟩

/-! ### What a failure leaves behind -/

/-- A turn that leaves a supervisor as it is and does not call the launcher. -/
def Untouched {α : Type} (k : Supervisor Script) (t : Turn (Supervisor Script) α) : Prop :=
  t.state = k ∧ ∀ record, .launched record ∉ t.trace

/-- A launch was tried on a channel, and failed. The channel is empty now, and the token of
what it showed has fired. Nothing else has changed, but for the launch that was used up. -/
structure LaunchLost (k : Supervisor Script) (c : Channel) (s : StreamSpec)
    (k' : Supervisor Script) (trace : List Happening) : Prop where
  called : trace.filterMap Happening.launch? =
    [(k.vacate c).launchRecord c (arguments k.settings c s) true]
  script : k'.launcher.launches = k.launcher.launches.tail
  registry : ∀ d, k'.registry.get d = if d = c then none else k.registry.get d
  unchanged : k.registry.get c = none → k'.registry = k.registry
  replaced : ∀ e, k.registry.get c = some e → s.restart = true ∧ k'.fired? e.owner = some true
  tokens : ∀ o, k.owner? c ≠ some o → k'.fired? o = k.fired? o
  processes : k'.processes.map Process.unfired = k.processes.map Process.unfired
  pending : k'.pending = k.pending
  shutDown : k'.shutDown = k.shutDown

theorem pending_eq_of_map_unfired {k' : Supervisor Script}
    (h : k'.processes.map Process.unfired = k.processes.map Process.unfired) :
    k'.pending = k.pending := by
  have hp := congrArg (List.countP (·.isAlive)) h
  rwa [List.countP_map, List.countP_map] at hp

theorem launchLost_start (hk : k.Grounded) (hl : k.launches (.start c spec) = true)
    (hf : k.launcher.next = .fail fault) :
    k.LaunchLost c spec (k.start c spec).state (k.start c spec).trace := by
  have hw := k.withdrawn_vacate c
  have ha : ((k.vacate c).asked c spec).child = .error fault := by
    rw [asked_eq_error_iff, hw.launcher, hf]
  obtain ⟨events, hs⟩ := start_of_launches hl
  rw [hs, launch_of_error ha]
  have htoken (o : Owner) : fired? { k.vacate c with
      launcher := ((k.vacate c).asked c spec).launcher } o =
        (k.fired? o).map fun b => b || decide (k.owner? c = some o) := by
    rw [← ownedIn_single, ← hw.fired?]
    cases o <;> rfl
  exact
    { called := by
        simp [List.filterMap_map, Function.comp_def, Happening.launch?, hw.settings]
      script := by simp [asked, Launcher.launch, hw.launcher]
      registry := fun d => by simpa using hw.registry d
      unchanged := fun hc => by
        ext1 d
        rw [hw.registry d]
        by_cases hd : d = c <;> simp [hd, hc]
      replaced := fun e he => by
        obtain ⟨b, hb⟩ := (hk c e he).fired?
        refine ⟨?_, by rw [htoken, hb]; simp [owner?, he]⟩
        simpa [launches, Slots.contains, he] using (Bool.and_eq_true_iff.mp hl).2
      tokens := fun o ho => by
        rw [htoken]
        simp [ho]
      processes := hw.map_processes fun _ => rfl
      pending := pending_eq_of_map_unfired (hw.map_processes fun _ => rfl)
      shutDown := hw.shutDown }

theorem untouched_of_refused (ha : (k.respond (.start key spec)).answer = some (.refused e))
    (he : ∀ c fault, e ≠ .launchFailed c fault) : k.Untouched (k.respond (.start key spec)) := by
  cases hkey : Channel.ofKey? key with
  | none => simp [Untouched, respond_start_of_key hkey]
  | some c =>
    cases hspec : spec.complaint? with
    | some complaint => simp [Untouched, respond_start_of_complaint hkey hspec]
    | none =>
      rw [respond_start hkey hspec] at ha ⊢
      simp only [serve] at ha
      cases hl : k.launches (.start c spec) with
      | false =>
        obtain ⟨event, error, hs⟩ := start_of_not_launches hl
        simp [Untouched, serve, hs]
      | true =>
        rcases start_answer_of_launches hl with ⟨hs, -⟩ | ⟨fault, hs, -⟩ <;> rw [hs] at ha
        · cases ha
        · obtain rfl : .launchFailed c fault = e := by simpa [Answer.ofResult] using ha
          exact (he c fault rfl).elim

theorem launchLost_of_refused (hk : k.Grounded)
    (ha : (k.respond (.start key spec)).answer = some (.refused (.launchFailed c fault))) :
    k.LaunchLost c spec (k.respond (.start key spec)).state
      (k.respond (.start key spec)).trace := by
  obtain ⟨⟨hkey, hnext⟩, hfirst⟩ := respond_start_refused_iff.mp ha
  have hspec : spec.complaint? = none := by
    refine Option.eq_none_iff_forall_ne_some.mpr fun complaint hc => ?_
    exact absurd (hfirst (.invalidSpec complaint) hc) (by simp [StreamError.rank])
  have hl : k.launches (.start c spec) = true := by
    have hs : k.shutDown = false := by
      refine Bool.eq_false_iff.mpr fun hs => ?_
      exact absurd (hfirst .shutDown hs) (by simp [StreamError.rank])
    have hr : k.registry.get c ≠ none → spec.restart = true := by
      refine fun hc => by_contra fun hr => ?_
      have hagainst : k.Against key spec (.alreadyRunning c) :=
        ⟨hkey, hc, Bool.eq_false_iff.mpr hr⟩
      exact absurd (hfirst _ hagainst) (by simp [StreamError.rank])
    cases hc : k.registry.get c <;> simp_all [launches, Slots.contains]
  rw [respond_start hkey hspec]
  exact launchLost_start hk hl hnext

end Supervisor

namespace Session

open Supervisor

theorem move_eq_respond {g : Settings} {steps : List Step} {before rest : List Move} {m : Move}
    {n : Nat} {call : Call} (h : (fresh g).moves steps = before ++ m :: rest)
    (hn : (steps.flatMap Step.calls)[n]? = some call) (hm : m.disposed? = some n)
    (hcall : call ≠ .shutdown) :
    let k := (fresh g).supervisor.after before
    ∃ a, (k.respond call).answer = some a ∧
      k.move m = ((k.respond call).state, (k.respond call).trace ++ [.answered n a]) := by
  intro k
  have hnum : m.Numbered (steps.flatMap Step.calls) := by
    have := (numbered_fresh g).moves steps m (by simp [h])
    rwa [List.nil_append] at this
  cases m with
  | issue i call' =>
    obtain ⟨hr, rfl⟩ : call'.request? = none ∧ i = n := by
      simpa [Move.disposed?] using hm
    obtain rfl := Option.some.inj (hnum.symm.trans hn)
    rcases Call.check_cases (k.announce call') call' with ⟨-, a, hc⟩ | ⟨r, hr', -⟩
    · exact ⟨a, by simp [respond, hc], by simp [Supervisor.move, respond, hc]⟩
    · cases hr.symm.trans hr'
  | serve i r =>
    obtain rfl : i = n := by simpa [Move.disposed?] using hm
    obtain ⟨call', hcall', hask⟩ := hnum
    obtain rfl := Option.some.inj (hcall'.symm.trans hn)
    rw [respond_of_request hcall (Call.asks_iff.mp hask)]
    cases ha : (k.serve r).answer with
    | some a => exact ⟨a, rfl, by simp [Supervisor.move, ha]⟩
    | none =>
      have hr : r = .shutdown := by cases r <;> simp_all [serve]
      exact (hcall (Call.eq_shutdown_of_asks (hr ▸ hask))).elim
  | _ => cases hm

/-- **Calls that fail.** In any state that moves lead to, a start is refused for the first of
these reasons that stands against it: its key, its spec, a shutdown, a stream in the way, the
launcher; and it is done if none does. A stop is refused for its key, or because the channel
shows nothing. Whoever is refused by anything but the launcher has changed nothing and has not
called the launcher. A launch that fails has called it once, and leaves its channel empty, with
the token of what was there fired, and all else as it was. This is how the calls of a session
are dealt with, those that had to wait for the registry as well. -/
theorem failed_calls_change_nothing (g : Settings) (ms : List Move) (key : String)
    (spec : StreamSpec) :
    let k := (fresh g).supervisor.after ms
    let t := k.respond (.start key spec)
    let u := k.respond (.stop key)
    (∀ e, t.answer = some (.refused e) ↔ k.FirstAgainst key spec e) ∧
    (t.answer = some .done ↔ ∀ e, ¬ k.Against key spec e) ∧
    (∀ e, u.answer = some (.refused e) ↔
      Channel.ofKey? key = none ∧ e = .invalidChannel key ∨
        ∃ c, Channel.ofKey? key = some c ∧ k.registry.get c = none ∧ e = .notRunning c) ∧
    (u.answer = some .done ↔ ∃ c, Channel.ofKey? key = some c ∧ k.registry.get c ≠ none) ∧
    (∀ e, t.answer = some (.refused e) → (∀ c fault, e ≠ .launchFailed c fault) →
      k.Untouched t) ∧
    (∀ e, u.answer = some (.refused e) → k.Untouched u) ∧
    (∀ c fault, t.answer = some (.refused (.launchFailed c fault)) →
      k.launcher.next = .fail fault ∧ k.LaunchLost c spec t.state t.trace) ∧
    ∀ (steps : List Step) (m : Move) (rest : List Move) (n : Nat) (call : Call),
      (fresh g).moves steps = ms ++ m :: rest → (steps.flatMap Step.calls)[n]? = some call →
      m.disposed? = some n → call ≠ .shutdown →
      ∃ a, (k.respond call).answer = some a ∧
        k.move m = ((k.respond call).state, (k.respond call).trace ++ [.answered n a]) := by
  intro k t u
  have hk : k.Grounded := (grounded_fresh g).after ms
  refine ⟨fun e => respond_start_refused_iff, respond_start_done_iff, fun e => ?_, ?_,
    fun e => untouched_of_refused, fun e he => ?_, fun c fault ha => ?_,
    fun steps m rest n call => move_eq_respond⟩
  · rcases k.respond_stop_cases key with ⟨hkey, hu⟩ | ⟨c, hkey, ⟨hc, hu⟩ | ⟨hc, hu⟩⟩
    · simp [u, hu, hkey, eq_comm]
    · simp [u, hu, hkey, hc, eq_comm]
    · simp [u, hu, hkey, hc]
  · rcases k.respond_stop_cases key with ⟨hkey, hu⟩ | ⟨c, hkey, ⟨hc, hu⟩ | ⟨hc, hu⟩⟩
    · simp [u, hu, hkey]
    · simp [u, hu, hkey, hc]
    · simp [u, hu, hkey, hc]
  · rcases k.respond_stop_cases key with ⟨hkey, hu⟩ | ⟨c, hkey, ⟨hc, hu⟩ | ⟨hc, hu⟩⟩
    · simp [Untouched, u, hu]
    · simp [Untouched, u, hu]
    · cases he.symm.trans hu
  · exact ⟨(respond_start_refused_iff.mp ha).1.2, launchLost_of_refused hk ha⟩

example :
    let spec : StreamSpec := { source := "tone", restart := true }
    let k := (fresh {}).supervisor.after
      [.guard (.set .audio spec "sink"), .script [.fail { kind := .notFound }]]
    let t := k.respond (.start " Audio" spec)
    t.answer = some (.refused (.launchFailed .audio { kind := .notFound })) ∧
      t.state.registry = {} ∧ t.state.guests = [true] := by
  decide

end Session
end StreamSupervisor
