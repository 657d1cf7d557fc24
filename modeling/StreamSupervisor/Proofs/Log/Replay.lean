import StreamSupervisor.Proofs.Shutdown.Return

/-! # Replaying the log

The log is a second record of the registry, written at other places than the registry itself.
Read in order it gives the registry again, and no event of it comes as a surprise: what is
taken out was shown just as the event says, and what is started finds its channel free.
-/

namespace StreamSupervisor

namespace Slots

variable {α β : Type} (f : α → β)

def map (s : Slots α) : Slots β := ⟨s.audio.map f, s.video.map f⟩

@[simp] theorem get_map (s : Slots α) (c : Channel) : (s.map f).get c = (s.get c).map f := by
  cases c <;> rfl

theorem map_put (s : Slots α) (c : Channel) (a : Option α) :
    (s.put c a).map f = (s.map f).put c (a.map f) := by
  cases c <;> rfl

@[simp] theorem map_set (s : Slots α) (c : Channel) (a : α) :
    (s.set c a).map f = (s.map f).set c (f a) := s.map_put f c (some a)

@[simp] theorem map_erase (s : Slots α) (c : Channel) :
    (s.erase c).map f = (s.map f).erase c := s.map_put f c none

end Slots

/-- What the log tells of a stream on show: its process identifier and its source. -/
def Entry.told (e : Entry) : Option Nat × String := (e.pid, e.spec.source)

namespace Event

/-- What is on show once an event is read. -/
def replay (s : Slots (Option Nat × String)) : Event → Slots (Option Nat × String)
  | started c pid source => s.set c (pid, source)
  | superseded c _ _ | stopRequested c _ => s.erase c
  | _ => s

/-- An event agrees with what is on show when it is read: what it clears is there, and what it
starts finds its channel free. -/
def Fits (s : Slots (Option Nat × String)) : Event → Prop
  | started c _ _ => s.get c = none
  | superseded c pid source => s.get c = some (pid, source)
  | stopRequested c pid => ∃ source, s.get c = some (pid, source)
  | _ => True

def isStarted : Event → Bool
  | started .. => true
  | _ => false

/-- Events that tell of no change of what is on show. -/
def isQuiet : Event → Bool
  | started .. | superseded .. | stopRequested .. => false
  | _ => true

/-- Reading some events, each of which agrees with what is on show, leads from what is on show
before them to what is on show after them. -/
inductive Reads : Slots (Option Nat × String) → List Event → Slots (Option Nat × String) → Prop
  | nil {s : Slots (Option Nat × String)} : Reads s [] s
  | cons {s t : Slots (Option Nat × String)} {e : Event} {events : List Event} :
      e.Fits s → Reads (e.replay s) events t → Reads s (e :: events) t

variable {s t u : Slots (Option Nat × String)} {e : Event} {events later : List Event}

theorem replay_of_isQuiet (h : e.isQuiet = true) (s : Slots (Option Nat × String)) :
    e.replay s = s := by
  cases e <;> first | rfl | cases h

theorem fits_of_isQuiet (h : e.isQuiet = true) (s : Slots (Option Nat × String)) : e.Fits s := by
  cases e <;> trivial

theorem isStarted_of_isQuiet (h : e.isQuiet = true) : e.isStarted = false := by
  cases e <;> first | rfl | cases h

theorem message_eq_started_iff : e.message = "Stream started" ↔ e.isStarted = true := by
  cases e with
  | ended c pid outcome => cases outcome <;> simp [message, isStarted]
  | _ => simp [message, isStarted]

theorem Reads.append (h : Reads s events t) (h' : Reads t later u) :
    Reads s (events ++ later) u := by
  induction h with
  | nil => exact h'
  | cons he _ ih => exact .cons he (ih h')

theorem reads_of_isQuiet (h : ∀ e ∈ events, e.isQuiet = true) : Reads s events s := by
  induction events with
  | nil => exact .nil
  | cons e events ih =>
    have he := h e List.mem_cons_self
    refine .cons (fits_of_isQuiet he s) ?_
    rw [replay_of_isQuiet he]
    exact ih fun e' he' => h e' (List.mem_cons_of_mem _ he')

theorem Reads.foldl (h : Reads s events t) : events.foldl replay s = t := by
  induction h with
  | nil => rfl
  | cons _ _ ih => exact ih

theorem Reads.fits {before after : List Event} (h : Reads s events t)
    (hs : events = before ++ e :: after) : e.Fits (before.foldl replay s) := by
  induction h generalizing before with
  | nil => simp at hs
  | cons he _ ih =>
    cases before with
    | nil =>
      obtain ⟨rfl, -⟩ := List.cons.inj hs
      exact he
    | cons e' before =>
      obtain ⟨rfl, hrest⟩ := List.cons.inj hs
      exact ih hrest

theorem reads_stopRequested {drained : List (Channel × Entry)} {shown : Slots Entry}
    (hd : drained.Pairwise fun p q => p.1 < q.1)
    (hs : ∀ c e, (c, e) ∈ drained ↔ shown.get c = some e) :
    Reads (shown.map Entry.told) (drained.map fun p => .stopRequested p.1 p.2.pid) {} := by
  induction drained generalizing shown with
  | nil =>
    obtain rfl : shown = {} := Slots.ext_get fun c => by
      rw [Slots.get_empty]
      exact Option.eq_none_iff_forall_ne_some.mpr fun e he => List.not_mem_nil ((hs c e).mpr he)
    exact .nil
  | cons p rest ih =>
    obtain ⟨hp, hrest⟩ := List.pairwise_cons.mp hd
    have hget : shown.get p.1 = some p.2 := (hs p.1 p.2).mp List.mem_cons_self
    have hfits : (stopRequested p.1 p.2.pid).Fits (shown.map Entry.told) :=
      ⟨p.2.spec.source, by simp [hget, Entry.told]⟩
    refine .cons hfits ?_
    rw [replay, ← Slots.map_erase]
    refine ih hrest fun c e => ?_
    rw [Slots.get_erase]
    split
    · -- the channels are all different, so none is stopped twice
      subst c
      simp only [reduceCtorEq, iff_false]
      exact fun h => Nat.lt_irrefl _ (hp (p.1, e) h)
    · rw [← hs, List.mem_cons, or_iff_right]
      rintro rfl
      contradiction

end Event

namespace Supervisor

section Logged

variable {ℓ : Type} {k k' k'' : Supervisor ℓ} {trace trace' : List Happening}

/-- What the log tells while a supervisor goes on is what happens to its registry, with one
start for each new process. -/
structure Logged (k : Supervisor ℓ) (trace : List Happening) (k' : Supervisor ℓ) : Prop where
  reads : Event.Reads (k.registry.map Entry.told) (trace.filterMap Happening.event?)
    (k'.registry.map Entry.told)
  started : k'.processes.length =
    k.processes.length + (trace.filterMap Happening.event?).countP Event.isStarted

theorem Logged.append (h : Logged k trace k') (h' : Logged k' trace' k'') :
    Logged k (trace ++ trace') k'' where
  reads := List.filterMap_append ▸ h.reads.append h'.reads
  started := by
    rw [h'.started, h.started, List.filterMap_append, List.countP_append, Nat.add_assoc]

theorem logged_of_isQuiet (hr : k'.registry = k.registry)
    (hp : k'.processes.length = k.processes.length)
    (ht : ∀ e ∈ trace.filterMap Happening.event?, e.isQuiet = true) : Logged k trace k' where
  reads := hr ▸ Event.reads_of_isQuiet ht
  started := by
    have hnone : (trace.filterMap Happening.event?).countP Event.isStarted = 0 :=
      List.countP_eq_zero.mpr fun e he => by simp [Event.isStarted_of_isQuiet (ht e he)]
    rw [hnone, hp, Nat.add_zero]

theorem logged_dismiss {c : Channel} {e : Entry} {event : Event}
    (hf : event.Fits (k.registry.map Entry.told)) (hs : event.isStarted = false)
    (hr : event.replay (k.registry.map Entry.told) = (k.registry.map Entry.told).erase c) :
    Logged k [.logged event] (k.dismiss c e) where
  reads := by
    refine .cons hf ?_
    rw [hr, ← Slots.map_erase, dismiss, fire_registry]
    exact .nil
  started := by simp [dismiss, Happening.event?, hs]

theorem logged_stop (k : Supervisor ℓ) (c : Channel) :
    Logged k (k.stop c).trace (k.stop c).state := by
  unfold stop
  cases he : k.registry.get c with
  | none => exact logged_of_isQuiet rfl rfl (by simp [Happening.event?, Event.isQuiet])
  | some e => exact logged_dismiss ⟨e.spec.source, by simp [he, Entry.told]⟩ rfl rfl

theorem logged_stopAll (k : Supervisor ℓ) : Logged k k.stopAll.trace k.stopAll.state := by
  have hlog : k.stopAll.trace.filterMap Happening.event? =
      k.registry.toList.map fun p => .stopRequested p.1 p.2.pid := by
    simp [stopAll, List.filterMap_map, Function.comp_def, Happening.event?]
  constructor
  · rw [hlog, stopAll_registry]
    exact Event.reads_stopRequested k.registry.pairwise_toList fun c e => Slots.mem_toList
  · rw [hlog, k.withdrawn_stopAll.length_processes, List.countP_map]
    simp [Function.comp_def, Event.isStarted]

end Logged

variable {k : Supervisor Script} {ms : List Move} {c : Channel} {s : StreamSpec}

theorem logged_launch (hc : k.registry.get c = none) :
    Logged k (k.launch c s).trace (k.launch c s).state := by
  -- a script logs nothing of its own
  have hevents : (k.asked c s).events = [] := rfl
  cases ha : (k.asked c s).child with
  | error fault =>
    rw [launch_of_error ha]
    exact logged_of_isQuiet rfl rfl (by simp [hevents, Happening.event?, Event.isQuiet])
  | ok child =>
    rw [launch_of_ok ha]
    have hfits : (Event.started c child.pid s.source).Fits (k.registry.map Entry.told) := by
      simp [Event.Fits, hc]
    refine ⟨.cons hfits ?_, List.length_append⟩
    simp only [install, Slots.map_set]
    exact .nil

theorem logged_start (k : Supervisor Script) (c : Channel) (s : StreamSpec) :
    Logged k (k.start c s).trace (k.start c s).state := by
  cases hk : k.shutDown with
  | true =>
    rw [start_of_shutDown hk]
    exact logged_of_isQuiet rfl rfl (by simp [Happening.event?, Event.isQuiet])
  | false =>
    cases he : k.registry.get c with
    | none =>
      rw [start_of_free hk he]
      exact logged_launch he
    | some e =>
      cases hs : s.restart with
      | false =>
        rw [start_of_occupied hk he hs]
        exact logged_of_isQuiet rfl rfl (by simp [Happening.event?, Event.isQuiet])
      | true =>
        rw [start_of_restart hk he hs]
        have hd : Logged k [.logged (.superseded c e.pid e.spec.source)] (k.dismiss c e) :=
          logged_dismiss (by simp [Event.Fits, he, Entry.told]) rfl rfl
        exact hd.append (logged_launch (by simp [dismiss]))

theorem logged_serve (k : Supervisor Script) (r : Request) :
    Logged k (k.serve r).trace (k.serve r).state := by
  cases r with
  | start c s => exact k.logged_start c s
  | stop c => exact k.logged_stop c
  | stopAll => exact k.logged_stopAll
  | shutdown =>
    exact k.logged_stopAll.append
      (logged_of_isQuiet rfl rfl (by simp [Happening.event?, Event.isQuiet]))
  | _ => exact logged_of_isQuiet rfl rfl (by simp [serve])

theorem logged_move (m : Move) (hm : ∀ call, m = .guard call → call.displaces = false) :
    Logged k (k.move m).2 (k.move m).1 := by
  cases m with
  | issue n call =>
    have hlog : (k.move (.issue n call)).2.filterMap Happening.event? = [] := by
      simp only [move]
      split <;> rfl
    refine logged_of_isQuiet ?_ ?_ (by simp [hlog])
    · cases call <;> rfl
    · cases call <;> simp [move, announce, fireAll]
  | serve n r =>
    refine (k.logged_serve r).append (logged_of_isQuiet rfl rfl ?_)
    simp [List.mem_filterMap, Happening.event?]
  | script launches => exact logged_of_isQuiet rfl rfl (by simp [move])
  | tell i collected =>
    simp only [move, tell]
    split
    · exact logged_of_isQuiet rfl (by simp) (by simp)
    · exact logged_of_isQuiet rfl rfl (by simp)
  | guard call =>
    cases call with
    | cancel c =>
      simp only [move, guardStep]
      split
      · exact logged_of_isQuiet (fire_registry ..) (fire_length_processes ..) (by simp)
      · exact logged_of_isQuiet rfl rfl (by simp)
    | get c => exact logged_of_isQuiet rfl rfl (by simp [move])
    | len => exact logged_of_isQuiet rfl rfl (by simp [move])
    | _ => cases hm _ rfl
  | settle =>
    refine logged_of_isQuiet rfl (by simp [move, settle]) fun e he => ?_
    obtain ⟨a, ha, hae⟩ := List.mem_filterMap.mp he
    obtain ⟨_, -, hreaped⟩ := List.mem_filterMap.mp ha
    obtain ⟨_, -, rfl⟩ := Option.map_eq_some_iff.mp hreaped
    cases hae

theorem logged_after (ms : List Move) (hg : ∀ call, .guard call ∈ ms → call.displaces = false) :
    Logged k (k.trace ms) (k.after ms) := by
  induction ms generalizing k with
  | nil => exact logged_of_isQuiet rfl rfl (by simp)
  | cons m ms ih =>
    refine (logged_move m ?_).append (ih fun call hc => hg call (List.mem_cons_of_mem _ hc))
    rintro call rfl
    exact hg call List.mem_cons_self

end Supervisor

namespace Session

/-- **The log replays to the registry.** As long as no handle is displaced by hand, reading
what a session has logged, from nothing on show, shows just what the registry shows, with
process identifiers and sources. Each event agrees with what is on show when it is read. The
streams that the log says were started are as many as the processes, which are those of the
launches that succeeded. -/
theorem log_replays_to_registry (g : Settings) (steps : List Step)
    (hg : ∀ call, Step.guard call ∈ steps → call.displaces = false) :
    let k := ((fresh g).run steps).supervisor
    let trace := (fresh g).trace steps
    let log := trace.filterMap Happening.event?
    log.foldl Event.replay {} = k.registry.map Entry.told ∧
    (∀ before e after, log = before ++ e :: after → e.Fits (before.foldl Event.replay {})) ∧
    log.countP (·.message = "Stream started") = k.processes.length ∧
    k.processes.map Process.launch = trace.filterMap Happening.success? := by
  intro k trace log
  have hlog : log = ((fresh g).supervisor.trace ((fresh g).moves steps)).filterMap
      Happening.event? := (fresh g).filterMap_trace (fun _ _ => rfl) steps
  have hk : k = (fresh g).supervisor.after ((fresh g).moves steps) := run_supervisor _ _
  obtain ⟨hreads, hstarted⟩ := Supervisor.logged_after (k := (fresh g).supervisor)
    ((fresh g).moves steps) fun call hc => hg call (guard_mem_of_mem_moves hc)
  rw [← hlog, ← hk] at hreads hstarted
  refine ⟨hreads.foldl, fun before e after => hreads.fits, ?_, map_launch_run g steps⟩
  simp only [Event.message_eq_started_iff, Bool.decide_eq_true]
  simpa [fresh] using hstarted.symm

/-- A restart that waited for the registry and then failed clears its channel in the log. -/
theorem log_replays_to_registry_failed_restart :
    let spec : StreamSpec := { source := "tone", restart := true }
    let steps : List Step :=
      [.script [.succeed .numbered .untilTold, .succeed .numbered .untilTold,
          .fail { kind := .notFound }],
        .call (.start "audio" spec), .hold, .call (.start "video" spec),
        .call (.start "audio" spec), .guard (.cancel .audio), .release]
    let k := ((fresh {}).run steps).supervisor
    let log := ((fresh {}).trace steps).filterMap Happening.event?
    let started : List Event :=
      [.started .audio (some 1000) "tone", .started .video (some 1001) "tone"]
    (∀ call, Step.guard call ∈ steps → call.displaces = false) ∧
      log = started ++ .superseded .audio (some 1000) "tone" ::
        [.launchFailed .audio "tone" { kind := .notFound }] ∧
      log.foldl Event.replay {} = k.registry.map Entry.told ∧
      k.registry.map Entry.told = ({} : Slots _).set .video (some 1001, "tone") ∧
      (Event.superseded .audio (some 1000) "tone").Fits (started.foldl Event.replay {}) ∧
      log.countP (·.message = "Stream started") = k.processes.length := by
  intro spec steps k log started
  have hg : ∀ call, Step.guard call ∈ steps → call.displaces = false := by
    simp [steps, GuardCall.displaces]
  have hlog : log = started ++ .superseded .audio (some 1000) "tone" ::
      [.launchFailed .audio "tone" { kind := .notFound }] := by
    decide
  obtain ⟨hreplay, hfits, hcount, -⟩ := log_replays_to_registry {} steps hg
  exact ⟨hg, hlog, hreplay, by decide, hfits _ _ _ hlog, hcount⟩

end Session
end StreamSupervisor
