import StreamSupervisor.Proofs.Lock.Progress
import StreamSupervisor.Proofs.Supervisor.Entries

/-! # Races for a channel

Starts on one channel get the registry one after the other, whatever else goes on. On a free
channel they fail until a launch succeeds, and all that come later find the channel taken. On
a channel that is taken, each restart takes over from the one before, with nothing between.
-/

namespace StreamSupervisor

/-- What is seen of the starts on a channel. -/
inductive StartEvent where
  | launched (failed : Bool)
  | returned (spec : StreamSpec) (answer : Answer)
deriving DecidableEq, Repr

namespace Call

def startOn? (c : Channel) (call : Call) : Option StreamSpec :=
  match call.request? with
  | some (.start d s) => if d = c then some s else none
  | _ => none

theorem startOn?_eq_some_iff {c : Channel} {call : Call} {s : StreamSpec} :
    call.startOn? c = some s ↔ call.request? = some (.start c s) := by
  unfold startOn?
  split
  · rename_i d t h
    by_cases hd : d = c <;> simp [h, hd]
  · rename_i h
    exact ⟨fun hs => (by cases hs), fun hs => (h _ _ hs).elim⟩

def spares (c : Channel) : Call → Bool
  | stop key => decide (Channel.ofKey? key ≠ some c)
  | stopAll | shutdown => false
  | _ => true

end Call

/-- Whether a step leaves a channel to starts: no call of it empties the channel, and no guard
call takes a handle out of the registry. -/
def Step.spares (c : Channel) (s : Step) : Bool :=
  s.calls.all (·.spares c) && match s with
    | .guard g => !g.displaces
    | _ => true

def Request.spares (c : Channel) : Request → Bool
  | stop d => decide (d ≠ c)
  | stopAll | shutdown => false
  | _ => true

theorem Call.spares_request {c : Channel} {call : Call} {r : Request} (h : call.spares c = true)
    (hr : call.request? = some r) : r.spares c = true := by
  cases call <;> simp only [Call.request?, Option.bind_eq_some_iff, Option.map_eq_some_iff,
    Option.some.injEq, Option.ite_none_right_eq_some, reduceCtorEq] at hr
  case stop key =>
    obtain ⟨d, hd, rfl⟩ := hr
    simpa [Call.spares, Request.spares, hd] using h
  case start => obtain ⟨_, _, _, rfl⟩ := hr; rfl
  case status | isRunning => obtain ⟨_, _, rfl⟩ := hr; rfl
  case stopAll | shutdown => cases h
  all_goals subst hr; rfl

def Move.Spares (c : Channel) : Move → Prop
  | issue _ call => call ≠ .shutdown
  | serve _ r => r.spares c = true
  | guard call => call.displaces = false
  | _ => True

def Happening.startEvent? (c : Channel) (calls : List Call) : Happening → Option StartEvent
  | launched r => if r.channel = c then some (.launched r.failed) else none
  | answered n a => (calls[n]?.bind (Call.startOn? c)).map (.returned · a)
  | _ => none

/-- What a trace shows of the starts on a channel, with calls that are numbered in the order of
their issue. -/
def startEvents (c : Channel) (calls : List Call) (trace : List Happening) : List StartEvent :=
  trace.filterMap (Happening.startEvent? c calls)

section Events

variable {c : Channel} {calls : List Call} {trace trace' : List Happening} {s : StreamSpec}
  {a : Answer} {failed : Bool}

@[simp] theorem startEvents_nil : startEvents c calls [] = [] := rfl

@[simp] theorem startEvents_cons (e : Happening) :
    startEvents c calls (e :: trace) =
      (e.startEvent? c calls).toList ++ startEvents c calls trace := by
  cases h : e.startEvent? c calls <;> simp [startEvents, h]

@[simp] theorem startEvents_append :
    startEvents c calls (trace ++ trace') =
      startEvents c calls trace ++ startEvents c calls trace' := List.filterMap_append

@[simp] theorem startEvents_logged (events : List Event) :
    startEvents c calls (events.map .logged) = [] := by
  simp [startEvents, List.filterMap_map, Function.comp_def, Happening.startEvent?]

theorem launched_mem_startEvents :
    .launched failed ∈ startEvents c calls trace ↔
      ∃ r, .launched r ∈ trace ∧ r.channel = c ∧ r.failed = failed := by
  simp only [startEvents, List.mem_filterMap]
  constructor
  · rintro ⟨e, he, h⟩
    cases e <;> simp only [Happening.startEvent?, Option.map_eq_some_iff, reduceCtorEq, and_false,
      exists_false, Option.ite_none_right_eq_some, Option.some.injEq,
      StartEvent.launched.injEq] at h
    exact ⟨_, he, h⟩
  · rintro ⟨r, hr, rfl, rfl⟩
    exact ⟨_, hr, by simp [Happening.startEvent?]⟩

theorem returned_mem_startEvents :
    .returned s a ∈ startEvents c calls trace ↔
      ∃ n, .answered n a ∈ trace ∧ calls[n]?.bind (Call.startOn? c) = some s := by
  simp only [startEvents, List.mem_filterMap]
  constructor
  · rintro ⟨e, he, h⟩
    cases e <;> simp only [Happening.startEvent?, Option.map_eq_some_iff, reduceCtorEq,
      Option.ite_none_right_eq_some, Option.some.injEq, StartEvent.returned.injEq, and_false] at h
    obtain ⟨_, hs, rfl, rfl⟩ := h
    exact ⟨_, he, hs⟩
  · rintro ⟨n, hn, hs⟩
    exact ⟨_, hn, by simp [Happening.startEvent?, hs]⟩

theorem startEvents_eq_nil (hl : ∀ r, .launched r ∈ trace → r.channel ≠ c)
    (ha : ∀ n a, .answered n a ∈ trace → calls[n]?.bind (Call.startOn? c) = none) :
    startEvents c calls trace = [] := by
  refine List.eq_nil_iff_forall_not_mem.mpr fun event he => ?_
  cases event with
  | launched failed =>
    obtain ⟨r, hr, hc, -⟩ := launched_mem_startEvents.mp he
    exact hl r hr hc
  | returned s a =>
    obtain ⟨n, hn, hs⟩ := returned_mem_startEvents.mp he
    rw [ha n a hn] at hs
    cases hs

end Events

/-- A race for a free channel. Some launches fail; then one succeeds, if any does, and the starts
that come later are turned away. -/
def race (c : Channel) (lost : List (StreamSpec × Fault))
    (outcome : Option (StreamSpec × List StreamSpec)) : List StartEvent :=
  (lost.flatMap fun p => [.launched true, .returned p.1 (.refused (.launchFailed c p.2))]) ++
    match outcome with
    | none => []
    | some (winner, late) => [.launched false, .returned winner .done] ++
      late.map fun s => .returned s (.refused (.alreadyRunning c))

theorem race_cons (c : Channel) (s : StreamSpec) (fault : Fault)
    (lost : List (StreamSpec × Fault)) (outcome : Option (StreamSpec × List StreamSpec)) :
    race c ((s, fault) :: lost) outcome =
      [.launched true, .returned s (.refused (.launchFailed c fault))] ++ race c lost outcome := rfl

theorem count_launched_race (c : Channel) (lost : List (StreamSpec × Fault))
    (outcome : Option (StreamSpec × List StreamSpec)) :
    (race c lost outcome).count (.launched false) ≤ 1 := by
  induction lost with
  | nil =>
    have hlate (late : List StreamSpec) : (late.map fun s =>
        StartEvent.returned s (.refused (.alreadyRunning c))).count (.launched false) = 0 := by
      simp [List.count_eq_zero]
    rcases outcome with _ | ⟨winner, late⟩ <;> simp [race, hlate]
  | cons p lost ih => simpa [race_cons c p.1 p.2] using ih

def takeover (c : Channel) (s : StreamSpec) : List StartEvent :=
  if s.restart then [.launched false, .returned s .done]
  else [.returned s (.refused (.alreadyRunning c))]

def StartEvent.isLaunch : StartEvent → Bool
  | launched _ => true
  | returned .. => false

@[simp] theorem StartEvent.isLaunch_launched (failed : Bool) : (launched failed).isLaunch = true :=
  rfl

@[simp] theorem StartEvent.isLaunch_returned (s : StreamSpec) (a : Answer) :
    (returned s a).isLaunch = false := rfl

theorem countP_startEvents (c : Channel) (calls : List Call) (trace : List Happening) :
    (startEvents c calls trace).countP (·.isLaunch) =
      (trace.filterMap Happening.launch?).countP (fun r => r.channel = c) := by
  induction trace with
  | nil => rfl
  | cons e trace ih =>
    rw [startEvents_cons, List.countP_append, ih]
    cases e with
    | launched r =>
      by_cases hr : r.channel = c <;>
        simp [Happening.startEvent?, Happening.launch?, List.countP_cons, hr, Nat.add_comm]
    | answered n a =>
      cases h : calls[n]?.bind (Call.startOn? c) <;>
        simp [Happening.startEvent?, Happening.launch?, List.filterMap_cons, h]
    | _ => simp [Happening.startEvent?, Happening.launch?, List.filterMap_cons]

theorem countP_takeovers (c : Channel) (starts : List StreamSpec) :
    (starts.flatMap (takeover c)).countP (·.isLaunch) = starts.countP (·.restart) := by
  induction starts with
  | nil => rfl
  | cons s starts ih =>
    rw [List.flatMap_cons, List.countP_append, ih]
    cases hs : s.restart <;> simp [takeover, List.countP_cons, hs, Nat.add_comm]

namespace Supervisor

variable {k : Supervisor Script} {m : Move} {ms : List Move} {c : Channel} {calls : List Call}
  {n : Nat} {s : StreamSpec} {e : Entry}

/-- What a move makes of a channel that is left to starts, and what is seen of it. -/
inductive StartTurn (k : Supervisor Script) (m : Move) (c : Channel) :
    List StartEvent → Option Entry → Prop
  | idle : StartTurn k m c [] (k.registry.get c)
  | refused {n : Nat} {s : StreamSpec} : m = .serve n (.start c s) → k.registry.get c ≠ none →
    s.restart = false →
    StartTurn k m c [.returned s (.refused (.alreadyRunning c))] (k.registry.get c)
  | failed {n : Nat} {s : StreamSpec} (fault : Fault) : m = .serve n (.start c s) →
    (k.registry.get c ≠ none → s.restart = true) →
    StartTurn k m c [.launched true, .returned s (.refused (.launchFailed c fault))] none
  | done {n : Nat} {s : StreamSpec} {e : Entry} : m = .serve n (.start c s) →
    (k.registry.get c ≠ none → s.restart = true) → e.spec = s →
    StartTurn k m c [.launched false, .returned s .done] (some e)

theorem startEvents_move_of_ne (hm : m.Spares c) (hn : m.Numbered calls)
    (hs : ∀ n s, m ≠ .serve n (.start c s)) :
    startEvents c calls (k.move m).2 = [] ∧ (k.move m).1.registry.get c = k.registry.get c := by
  refine ⟨startEvents_eq_nil (fun r hr => ?_) fun i a ha => ?_, get_move fun hc => ?_⟩
  · obtain ⟨n, d, s, rfl, -, hr⟩ := mem_move_launched hr
    rw [hr]
    rintro rfl
    exact hs n s rfl
  · have hno {call : Call} (hi : calls[i]? = some call)
        (hr : ∀ s, call.request? ≠ some (.start c s)) :
        calls[i]?.bind (Call.startOn? c) = none := by
      rw [hi, Option.bind_some, Option.eq_none_iff_forall_ne_some]
      exact fun s h => hr s (Call.startOn?_eq_some_iff.mp h)
    rcases answered_of_move ha with ⟨call, rfl, -⟩ | ⟨r, rfl, -⟩
    · refine hno hn fun s hr => ?_
      simp [move, Call.check_eq_queued_iff.mpr hr] at ha
    · obtain ⟨call, hi, hr⟩ := hn
      refine hno hi fun s hs' => hs i s ?_
      rw [Call.asks_iff.mp hr, Option.some.injEq] at hs'
      rw [hs']
  · cases m with
    | serve n r =>
      cases r with
      | start d s => exact hs n s (by simp_all [Clears, withdraws])
      | _ => simp_all [Clears, withdraws, Move.Spares, Request.spares]
    | guard call => cases call <;> simp_all [Clears, Move.Spares, GuardCall.displaces]
    | _ => exact hc

theorem startTurn_start (hk : k.shutDown = false) (hn : calls[n]?.bind (Call.startOn? c) = some s) :
    k.StartTurn (.serve n (.start c s)) c
      (startEvents c calls (k.move (.serve n (.start c s))).2)
      ((k.move (.serve n (.start c s))).1.registry.get c) := by
  have hreturned (a : Answer) :
      (Happening.answered n a).startEvent? c calls = some (.returned s a) := by
    simp [Happening.startEvent?, hn]
  have hlogged (e : Event) : (Happening.logged e).startEvent? c calls = none := rfl
  cases hl : k.launches (.start c s) with
  | false =>
    obtain ⟨hr, e, he⟩ : s.restart = false ∧ ∃ e, k.registry.get c = some e := by
      simpa [launches, hk, Slots.contains, Option.isSome_iff_exists] using hl
    have hc : k.registry.get c ≠ none := by simp [he]
    simpa [move, serve, start_of_occupied hk he hr, Answer.ofResult, hreturned, hlogged]
      using StartTurn.refused (m := .serve n (.start c s)) rfl hc hr
  | true =>
    have hfree : k.registry.get c ≠ none → s.restart = true := by
      intro hc
      simpa [launches, hk, Slots.contains, Option.isSome_iff_ne_none.mpr hc] using hl
    have hcalled (args : List String) (failed : Bool) :
        (Happening.launched ((k.vacate c).launchRecord c args failed)).startEvent? c calls =
          some (.launched failed) := by
      simp [Happening.startEvent?, launchRecord]
    obtain ⟨events, hs⟩ := start_of_launches hl
    cases ha : ((k.vacate c).asked c s).child with
    | error fault =>
      rw [launch_of_error ha] at hs
      simpa [move, serve, hs, Answer.ofResult, hreturned, hcalled, hlogged, vacate_registry_get]
        using StartTurn.failed (m := .serve n (.start c s)) fault rfl hfree
    | ok child =>
      rw [launch_of_ok ha] at hs
      simpa [move, serve, hs, Answer.ofResult, hreturned, hcalled, hlogged, install]
        using StartTurn.done (m := .serve n (.start c s)) (e := { spec := s, .. }) rfl hfree rfl

theorem startTurn_move (hk : k.shutDown = false) (hm : m.Spares c) (hn : m.Numbered calls) :
    k.StartTurn m c (startEvents c calls (k.move m).2) ((k.move m).1.registry.get c) := by
  by_cases hs : ∃ n s, m = .serve n (.start c s)
  · obtain ⟨n, s, rfl⟩ := hs
    obtain ⟨call, hi, hr⟩ := hn
    exact startTurn_start hk (by simp [hi, Call.startOn?_eq_some_iff, Call.asks_iff.mp hr])
  · obtain ⟨he, hg⟩ := startEvents_move_of_ne hm hn fun n s h => hs ⟨n, s, h⟩
    rw [he, hg]
    exact .idle

theorem shutDown_move_of_spares (hk : k.shutDown = false) (hm : m.Spares c) :
    (k.move m).1.shutDown = false := by
  rw [Bool.eq_false_iff, ne_eq, shutDown_move]
  rintro (h | ⟨n, rfl⟩)
  · simp [hk] at h
  · exact hm rfl

theorem serve_answer_of_answered {call : Call} {r : Request} {a : Answer} (hm : m.Numbered calls)
    (hn : calls[n]? = some call) (hr : call.request? = some r)
    (ha : .answered n a ∈ (k.move m).2) : (k.serve r).answer = some a := by
  rcases answered_of_move ha with ⟨call', rfl, -⟩ | ⟨r', rfl, -⟩
  · obtain rfl := Option.some.inj (hn.symm.trans hm)
    simp [move, Call.check_eq_queued_iff.mpr hr] at ha
  · obtain ⟨call', hn', hr'⟩ := hm
    obtain rfl := Option.some.inj (hn.symm.trans hn')
    obtain rfl := Option.some.inj (hr.symm.trans (Call.asks_iff.mp hr'))
    rcases List.mem_append.mp ha with ha | ha
    · have hmem := mem_answered.mpr ⟨a, ha⟩
      simp [answered_serve] at hmem
    · simpa using ha

theorem get_after_of_no_restart (hk : k.shutDown = false) (he : k.registry.get c = some e)
    (hm : ∀ m ∈ ms, m.Spares c) (hn : ∀ m ∈ ms, m.Numbered calls)
    (hr : ∀ n s, .serve n (.start c s) ∈ ms → s.restart = false) :
    (k.after ms).registry.get c = some e := by
  refine (after_induction (P := fun k => k.shutDown = false ∧ k.registry.get c = some e)
    ⟨hk, he⟩ ?_).2
  rintro m hmem k ⟨hk, he⟩
  refine ⟨shutDown_move_of_spares hk (hm m hmem), ?_⟩
  have hturn := startTurn_move hk (hm m hmem) (hn m hmem)
  generalize startEvents c calls (k.move m).2 = events, (k.move m).1.registry.get c = shown
    at hturn ⊢
  have hno {n : Nat} {s : StreamSpec} (hs : m = .serve n (.start c s))
      (hf : k.registry.get c ≠ none → s.restart = true) : False := by
    have := hf (by simp [he])
    simp [hr n s (hs ▸ hmem)] at this
  cases hturn with
  | idle => exact he
  | refused => exact he
  | failed _ hs hf => exact (hno hs hf).elim
  | done hs hf => exact (hno hs hf).elim

theorem StartTurn.of_taken {events : List StartEvent} {shown : Option Entry}
    (h : k.StartTurn m c events shown) (hc : k.registry.get c ≠ none)
    (hl : .launched true ∉ events ∨ ∀ n s, m = .serve n (.start c s) → s.restart = false) :
    shown ≠ none ∧ ∃ starts : List StreamSpec, events = starts.flatMap (takeover c) ∧
      ∀ s ∈ starts, ∃ n, m = .serve n (.start c s) := by
  cases h with
  | idle => exact ⟨hc, [], rfl, by simp⟩
  | @refused n s hs _ hr => exact ⟨hc, [s], by simp [takeover, hr], by simp [hs]⟩
  | @failed n s fault hs hr =>
    rcases hl with hl | hl
    · simp at hl
    · simp [hl n s hs, hc] at hr
  | @done n s e hs hr => exact ⟨by simp, [s], by simp [takeover, hr hc], by simp [hs]⟩

theorem startEvents_of_taken (calls : List Call) (hk : k.shutDown = false)
    (hc : k.registry.get c ≠ none) (hm : ∀ m ∈ ms, m.Spares c) (hn : ∀ m ∈ ms, m.Numbered calls)
    (hl : .launched true ∉ startEvents c calls (k.trace ms) ∨
      ∀ n s, .serve n (.start c s) ∈ ms → s.restart = false) :
    (k.after ms).registry.get c ≠ none ∧ ∃ starts : List StreamSpec,
      startEvents c calls (k.trace ms) = starts.flatMap (takeover c) ∧
        ∀ s ∈ starts, ∃ n, .serve n (.start c s) ∈ ms := by
  induction ms generalizing k with
  | nil => exact ⟨hc, [], rfl, by simp⟩
  | cons m ms ih =>
    obtain ⟨hm₁, hm⟩ := List.forall_mem_cons.mp hm
    obtain ⟨hn₁, hn⟩ := List.forall_mem_cons.mp hn
    rw [trace_cons, startEvents_append, List.mem_append, not_or] at hl
    obtain ⟨hc', starts, hevents, hserved⟩ := (startTurn_move hk hm₁ hn₁).of_taken hc
      (hl.imp And.left fun h n s hs => h n s (hs ▸ List.mem_cons_self))
    obtain ⟨hafter, later, hlater, hserved'⟩ := ih (shutDown_move_of_spares hk hm₁) hc' hm hn
      (hl.imp And.right fun h n s hs => h n s (List.mem_cons_of_mem _ hs))
    refine ⟨hafter, starts ++ later, ?_, fun s hs => ?_⟩
    · rw [trace_cons, startEvents_append, hevents, hlater, List.flatMap_append]
    · rcases List.mem_append.mp hs with hs | hs
      · obtain ⟨n, rfl⟩ := hserved s hs
        exact ⟨n, List.mem_cons_self⟩
      · obtain ⟨n, hs⟩ := hserved' s hs
        exact ⟨n, List.mem_cons_of_mem _ hs⟩

theorem startEvents_of_free (calls : List Call) (hk : k.shutDown = false)
    (hc : k.registry.get c = none) (hm : ∀ m ∈ ms, m.Spares c) (hn : ∀ m ∈ ms, m.Numbered calls)
    (hr : ∀ n s, .serve n (.start c s) ∈ ms → s.restart = false) :
    ∃ lost outcome, startEvents c calls (k.trace ms) = race c lost outcome ∧
      ((k.after ms).registry.get c).map (·.spec) = outcome.map (·.1) := by
  induction ms generalizing k with
  | nil => exact ⟨[], none, rfl, by simp [hc]⟩
  | cons m ms ih =>
    obtain ⟨hm₁, hm⟩ := List.forall_mem_cons.mp hm
    obtain ⟨hn₁, hn⟩ := List.forall_mem_cons.mp hn
    have hr' (n : Nat) (s : StreamSpec) (hs : .serve n (.start c s) ∈ ms) : s.restart = false :=
      hr n s (List.mem_cons_of_mem _ hs)
    have hk' := shutDown_move_of_spares hk hm₁
    have hturn := startTurn_move hk hm₁ hn₁
    rw [trace_cons, startEvents_append, after_cons]
    generalize hevents : startEvents c calls (k.move m).2 = events,
      hshown : (k.move m).1.registry.get c = shown at hturn
    cases hturn with
    | idle => exact ih hk' (hshown.trans hc) hm hn hr'
    | refused _ hne => exact (hne hc).elim
    | @failed _ s fault =>
      obtain ⟨lost, outcome, hrace, hafter⟩ := ih hk' hshown hm hn hr'
      exact ⟨(s, fault) :: lost, outcome, by rw [hrace, race_cons], hafter⟩
    | @done _ s e _ _ he =>
      obtain ⟨-, late, hlate, hserved⟩ :=
        startEvents_of_taken calls hk' (by simp [hshown]) hm hn (.inr hr')
      refine ⟨[], some (s, late), ?_, ?_⟩
      · have hturned : ∀ t ∈ late, takeover c t = [.returned t (.refused (.alreadyRunning c))] := by
          intro t ht
          obtain ⟨n, hn⟩ := hserved t ht
          simp [takeover, hr' n t hn]
        rw [hlate, List.flatMap_congr hturned]
        simp [race, List.map_eq_flatMap]
      · rw [get_after_of_no_restart hk' hshown hm hn hr', Option.map_some, he]
        rfl

end Supervisor

namespace Session

open Supervisor

variable {x : Session Script} {calls : List Call} {c : Channel} {later : List Step}

/-- A session of which every call was answered, and none shut it down. -/
structure AtRest (calls : List Call) (x : Session Script) : Prop where
  numbered : x.Numbered calls
  queue : x.queue = []
  draining : x.draining = []
  shutDown : x.supervisor.shutDown = false

theorem atRest_run {g : Settings} {steps : List Step} (hu : ∀ n, ¬ Unfinished g steps n)
    (hs : .shutdown ∉ steps.flatMap Step.calls) :
    ((fresh g).run steps).AtRest (steps.flatMap Step.calls) where
  numbered := (numbered_fresh g).run steps
  queue := List.eq_nil_iff_forall_not_mem.mpr fun p hp =>
    hu p.1 (unfinished_iff.mpr (.inl ⟨p.2, hp⟩))
  draining := List.eq_nil_iff_forall_not_mem.mpr fun n hn => hu n (unfinished_iff.mpr (.inr hn))
  shutDown := by
    rw [run_supervisor, Bool.eq_false_iff, ne_eq, shutDown_after_moves_iff]
    exact hs

theorem AtRest.request (h : x.AtRest calls) {n : Nat} {r : Request}
    (hm : .serve n r ∈ x.moves later) :
    ∃ call ∈ later.flatMap Step.calls, call.request? = some r := by
  obtain ⟨call, hn, hr⟩ := h.numbered.moves later _ hm
  have hdisposed :
      n ∈ x.queue.map (·.1) ++ List.range' x.issued (later.flatMap Step.calls).length :=
    (x.disposed_run later).mem_iff.mp
      (List.mem_append_left _ (List.mem_filterMap.mpr ⟨_, hm, rfl⟩))
  rw [h.queue, h.numbered.issued] at hdisposed
  have hle : calls.length ≤ n := by simp at hdisposed; omega
  rw [List.getElem?_append_right hle] at hn
  exact ⟨call, List.mem_of_getElem? hn, Call.asks_iff.mp hr⟩

theorem spares_of_mem_calls (hl : ∀ s ∈ later, s.spares c = true) :
    ∀ call ∈ later.flatMap Step.calls, call.spares c = true := by
  intro call hcall
  obtain ⟨s, hs, hc⟩ := List.mem_flatMap.mp hcall
  have := hl s hs
  simp only [Step.spares, Bool.and_eq_true, List.all_eq_true] at this
  exact this.1 call hc

theorem AtRest.spares (h : x.AtRest calls) (hl : ∀ s ∈ later, s.spares c = true) :
    ∀ m ∈ x.moves later, m.Spares c := by
  intro m hm
  cases m with
  | issue n call =>
    have := spares_of_mem_calls hl call (issue_mem_moves_iff.mp ⟨n, hm⟩)
    rintro rfl
    cases this
  | serve n r =>
    obtain ⟨call, hc, hr⟩ := h.request hm
    exact Call.spares_request (spares_of_mem_calls hl call hc) hr
  | guard g =>
    have := hl _ (guard_mem_of_mem_moves hm)
    change g.displaces = false
    simpa [Step.spares, Step.calls] using this
  | _ => trivial

theorem AtRest.accounted (h : x.AtRest calls) (hl : ∀ s ∈ later, s.spares c = true) :
    x.trace later = x.supervisor.trace (x.moves later) ∧
      (answered (x.trace later) ++ (x.run later).queue.map (·.1)).Perm
        (List.range' x.issued (later.flatMap Step.calls).length) := by
  have hshutdown (n : Nat) : .serve n .shutdown ∉ x.moves later := fun hn => by
    simpa [Move.Spares, Request.spares] using h.spares hl _ hn
  obtain ⟨hdraining, htrace⟩ := draining_and_trace_of_no_shutdown h.draining hshutdown
  have ha := x.answered_run later
  have hd := x.disposed_run later
  rw [hdraining, h.draining, List.append_nil, List.nil_append] at ha
  rw [h.queue] at hd
  exact ⟨htrace, (ha.append_right _).trans hd⟩

theorem AtRest.taken (h : x.AtRest calls) (hl : ∀ s ∈ later, s.spares c = true)
    (hc : x.supervisor.registry.get c ≠ none)
    (hf : ∀ r, .launched r ∈ x.trace later → r.channel = c → r.failed = false)
    {before rest : List Move} (hms : x.moves later = before ++ rest) :
    (x.supervisor.after before).registry.get c ≠ none := by
  have hmem {m : Move} (hm : m ∈ before) : m ∈ x.moves later := hms ▸ List.mem_append_left _ hm
  refine (startEvents_of_taken (calls ++ later.flatMap Step.calls) h.shutDown hc
    (fun m hm => h.spares hl m (hmem hm)) (fun m hm => h.numbered.moves later m (hmem hm))
    (.inl fun he => ?_)).1
  obtain ⟨r, hr, hrc, hfailed⟩ := launched_mem_startEvents.mp he
  have htrace : .launched r ∈ x.trace later := by
    rw [(h.accounted hl).1, hms, trace_append]
    exact List.mem_append_left _ hr
  simp [hf r htrace hrc] at hfailed

theorem AtRest.get_of_last_restart (h : x.AtRest calls) (hl : ∀ s ∈ later, s.spares c = true)
    {before after : List Move} {n : Nat} {s : StreamSpec}
    (hms : x.moves later = before ++ .serve n (.start c s) :: after) (hr : s.restart = true)
    (hc : (x.supervisor.after (before ++ [.serve n (.start c s)])).registry.get c ≠ none)
    (hlast : ∀ i t, .serve i (.start c t) ∈ after → t.restart = false) :
    ∃ e, (x.run later).supervisor.registry.get c = some e ∧ e.spec = s ∧
      e.owner = .process (x.supervisor.after before).processes.length := by
  have hspares : ∀ m ∈ before ++ .serve n (.start c s) :: after, m.Spares c := hms ▸ h.spares hl
  have hnumbered := hms ▸ h.numbered.moves later
  simp only [List.forall_mem_append, List.forall_mem_cons] at hspares hnumbered
  have hk : (x.supervisor.after before).shutDown = false := by
    rw [Bool.eq_false_iff, ne_eq, shutDown_after]
    rintro (hs | ⟨i, hi⟩)
    · simp [h.shutDown] at hs
    · exact hspares.1 _ hi rfl
  rw [after_append] at hc
  obtain ⟨e, he⟩ := Option.ne_none_iff_exists'.mp hc
  obtain ⟨hspec, howner, -⟩ := entry_of_start (by simp [launches, hk, hr]) he
  refine ⟨e, ?_, hspec, howner⟩
  rw [run_supervisor, hms, after_append, after_cons]
  exact get_after_of_no_restart (shutDown_move_of_spares hk hspares.2.1) he hspares.2.2
    hnumbered.2.2 hlast

/-- **Races for a channel.** Take a session of which every call was answered, and none shut it
down, and go on with steps that leave a channel to starts: no stop on it and none of all, no
shutdown, no guard call that takes a handle out. Each call from there on is answered once or
stands in line. If the channel is free and no start on it asks for a restart, then in the order
in which they get the registry the starts fail with their launches until one launch succeeds;
that start is done, and all later ones find the channel taken and launch nothing. If the channel
is taken and all launches on it succeed, then whoever looks at it with the registry finds it
taken, each restart launches once and is done, and the channel shows what the last of them has
put in. -/
theorem starts_race_in_lock_order {g : Settings} {c : Channel} {steps later : List Step}
    (hu : ∀ n, ¬ Unfinished g steps n) (hs : .shutdown ∉ steps.flatMap Step.calls)
    (hl : ∀ s ∈ later, s.spares c = true) :
    let x := (fresh g).run steps
    let y := x.run later
    let calls := (steps ++ later).flatMap Step.calls
    let events := startEvents c calls (x.trace later)
    (answered (x.trace later) ++ y.queue.map (·.1)).Perm
      (List.range' x.issued (later.flatMap Step.calls).length) ∧
    (x.supervisor.registry.get c = none →
      (∀ call ∈ later.flatMap Step.calls, ∀ s, call.startOn? c = some s → s.restart = false) →
      ∃ lost outcome, events = race c lost outcome ∧ events.count (.launched false) ≤ 1 ∧
        (y.supervisor.registry.get c).map (·.spec) = outcome.map (·.1)) ∧
    (x.supervisor.registry.get c ≠ none →
      (∀ r, .launched r ∈ x.trace later → r.channel = c → r.failed = false) →
      (∃ starts : List StreamSpec, events = starts.flatMap (takeover c) ∧
        ((x.trace later).filterMap Happening.launch?).countP (fun r => r.channel = c) =
          starts.countP (·.restart)) ∧
      (∀ n a, calls[n]? = some (.contains c) → .answered n a ∈ x.trace later → a = .flag true) ∧
      (∀ n a key, calls[n]? = some (.status key) → Channel.ofKey? key = some c →
        .answered n a ∈ x.trace later → ∃ s, a = .status (some s)) ∧
      (∀ before rest, later = before ++ .guard (.get c) :: rest → (x.run before).held = true →
        ∃ s, ((x.run before).step (.guard (.get c))).answer = .status (some s)) ∧
      (∀ before n s after, x.moves later = before ++ .serve n (.start c s) :: after →
        s.restart = true → (∀ i t, .serve i (.start c t) ∈ after → t.restart = false) →
        ∃ e, y.supervisor.registry.get c = some e ∧ e.spec = s ∧
          e.owner = .process (x.supervisor.after before).processes.length) ∧
      ((∀ n s, .serve n (.start c s) ∈ x.moves later → s.restart = false) →
        y.supervisor.registry.get c = x.supervisor.registry.get c)) := by
  intro x y calls events
  have hx : x.AtRest (steps.flatMap Step.calls) := atRest_run hu hs
  have hcalls : calls = steps.flatMap Step.calls ++ later.flatMap Step.calls := List.flatMap_append
  obtain ⟨htrace, haccounted⟩ := hx.accounted hl
  have hspares : ∀ m ∈ x.moves later, m.Spares c := hx.spares hl
  have hnumbered : ∀ m ∈ x.moves later, m.Numbered calls := hcalls ▸ hx.numbered.moves later
  have hy : y.supervisor = x.supervisor.after (x.moves later) := run_supervisor _ _
  refine ⟨haccounted, fun hc hr => ?_, fun hc hf => ?_⟩
  · obtain ⟨lost, outcome, hevents, hentry⟩ := startEvents_of_free calls hx.shutDown hc
      hspares hnumbered fun n s hm => by
        obtain ⟨call, hcall, hreq⟩ := hx.request hm
        exact hr call hcall s (Call.startOn?_eq_some_iff.mpr hreq)
    rw [← htrace] at hevents
    refine ⟨lost, outcome, hevents, ?_, hy ▸ hentry⟩
    rw [show events = race c lost outcome from hevents]
    exact count_launched_race c lost outcome
  · have htaken {before rest : List Move} (h : x.moves later = before ++ rest) :
        (x.supervisor.after before).registry.get c ≠ none := hx.taken hl hc hf h
    have hserved {n : Nat} {a : Answer} {call : Call} {r : Request} (hn : calls[n]? = some call)
        (hr : call.request? = some r) (ha : .answered n a ∈ x.trace later) :
        ∃ k : Supervisor Script, k.registry.get c ≠ none ∧ (k.serve r).answer = some a := by
      rw [htrace] at ha
      obtain ⟨before, m, rest, hms, hm⟩ := Supervisor.mem_trace_iff.mp ha
      exact ⟨_, htaken hms, serve_answer_of_answered (hnumbered m (by simp [hms])) hn hr hm⟩
    have hstatus {k : Supervisor Script} (hk : k.registry.get c ≠ none) :
        ∃ s, k.status? c = some s := by
      rw [← Option.isSome_iff_exists, status?_isSome]
      exact Option.isSome_iff_ne_none.mpr hk
    refine ⟨?_, fun n a hn ha => ?_, fun n a key hn hkey ha => ?_,
      fun before rest hlater hheld => ?_, fun before n s after hms hr hlast => ?_, fun hr => ?_⟩
    · obtain ⟨-, starts, hevents, -⟩ := startEvents_of_taken calls hx.shutDown hc hspares
        hnumbered (.inl (htrace ▸ fun he => by
          obtain ⟨r, hr, hrc, hfailed⟩ := launched_mem_startEvents.mp he
          simp [hf r hr hrc] at hfailed))
      rw [← htrace] at hevents
      refine ⟨starts, hevents, ?_⟩
      rw [← countP_takeovers c starts, ← hevents, countP_startEvents]
    · obtain ⟨k, hk, hanswer⟩ := hserved hn rfl ha
      simpa [serve, Slots.contains, Option.isSome_iff_ne_none.mpr hk, eq_comm] using hanswer
    · obtain ⟨k, hk, hanswer⟩ := hserved (r := .status c) hn (by simp [Call.request?, hkey]) ha
      obtain ⟨s, hs⟩ := hstatus hk
      exact ⟨s, by simpa [serve, hs, eq_comm] using hanswer⟩
    · have hms : x.moves later =
          x.moves before ++ (x.run before).moves (.guard (.get c) :: rest) := by
        rw [hlater, moves_append]
      obtain ⟨s, hs⟩ := hstatus (htaken hms)
      rw [← run_supervisor] at hs
      exact ⟨s, by simp [step, act, hheld, guardStep, hs]⟩
    · have hsplit : x.moves later = before ++ [.serve n (.start c s)] ++ after := by
        rw [hms, List.append_cons]
      exact hx.get_of_last_restart hl hms hr (htaken hsplit) hlast
    · obtain ⟨e, he⟩ := Option.ne_none_iff_exists'.mp hc
      rw [hy, he]
      exact get_after_of_no_restart hx.shutDown he hspares hnumbered hr

/-- Behind a held registry three starts race for the free channel, and the first of them fails. A
restart takes over the other channel, and who looks at it afterwards finds it taken. -/
theorem starts_race_in_lock_order_held :
    let spec : StreamSpec := { source := "tone" }
    let anew : StreamSpec := { source := "loop", restart := true }
    let steps : List Step := [.call (.start "video" spec)]
    let later : List Step := [.hold, .script [.fail { kind := .notFound }],
      .batch [.start "audio" spec, .start "audio" spec, .start "audio" spec],
      .batch [.start "video" anew, .contains .video], .release]
    let x := (fresh {}).run steps
    let y := x.run later
    let calls := (steps ++ later).flatMap Step.calls
    (∀ n, 1 ≤ n → n ≤ 5 → ∃ a, .answered n a ∈ x.trace later) ∧
    x.supervisor.registry.get .audio = none ∧
    (∃ lost outcome, startEvents .audio calls (x.trace later) = race .audio lost outcome ∧
      outcome.map (·.1) = some spec) ∧
    x.supervisor.registry.get .video ≠ none ∧ .answered 5 (.flag true) ∈ x.trace later ∧
    ∃ e, y.supervisor.registry.get .video = some e ∧ e.spec = anew ∧ e.owner = .process 2 := by
  intro spec anew steps later x y calls
  have hunfinished (n : Nat) : ¬ Unfinished {} steps n := by
    rw [unfinished_iff, show ((fresh {}).run steps).queue = [] by decide,
      show ((fresh {}).run steps).draining = [] by decide]
    simp
  have hshutdown : .shutdown ∉ steps.flatMap Step.calls := by decide
  have haudio : x.supervisor.registry.get .audio = none := by decide
  have hvideo : x.supervisor.registry.get .video ≠ none := by decide
  have hplain : ∀ call ∈ later.flatMap Step.calls,
      (call.startOn? .audio).all (fun s => !s.restart) = true := by decide
  have hlaunched : ∀ r ∈ (x.trace later).filterMap Happening.launch?,
      r.channel = .video → r.failed = false := by decide
  have hmoves : x.moves later = (x.moves later).take 13 ++ .serve 4 (.start .video anew) ::
      [.serve 5 (.contains .video), .settle] := by decide
  have hspares (c : Channel) : ∀ s ∈ later, s.spares c = true := by cases c <;> decide
  obtain ⟨haccounted, hfree, -⟩ := starts_race_in_lock_order hunfinished hshutdown (hspares .audio)
  obtain ⟨-, -, htaken⟩ := starts_race_in_lock_order hunfinished hshutdown (hspares .video)
  obtain ⟨lost, outcome, hevents, -, hentry⟩ := hfree haudio fun call hc s hs => by
    simpa [hs] using hplain call hc
  obtain ⟨-, hcontains, -, -, hlast, -⟩ := htaken hvideo fun r hr =>
    hlaunched r (List.mem_filterMap.mpr ⟨_, hr, rfl⟩)
  have hwinner : outcome.map (·.1) = some spec := by
    rw [← hentry]
    decide
  have hall (n : Nat) (hn : 1 ≤ n) (hn' : n ≤ 5) : ∃ a, .answered n a ∈ x.trace later := by
    have hmem := haccounted.mem_iff (a := n)
    rw [show ((fresh {}).run steps).issued = 1 by decide,
      show (((fresh {}).run steps).run later).queue = [] by decide, List.map_nil, List.append_nil,
      List.mem_range'_1, mem_answered] at hmem
    exact hmem.mpr ⟨hn, Nat.lt_succ_of_le hn'⟩
  have hseen : .answered 5 (.flag true) ∈ x.trace later := by
    obtain ⟨a, ha⟩ := hall 5 (by decide) (by decide)
    rw [hcontains 5 a (by decide) ha] at ha
    exact ha
  have hearlier : (x.supervisor.after ((x.moves later).take 13)).processes.length = 2 := by decide
  obtain ⟨e, he, hspec, howner⟩ := hlast _ 4 anew _ hmoves rfl (by simp)
  have howner' : e.owner = .process 2 := howner.trans (congrArg Owner.process hearlier)
  refine ⟨hall, haudio, ⟨lost, outcome, hevents, hwinner⟩, hvideo, hseen, e, ?_, hspec, howner'⟩
  rw [show y = ((fresh {}).run steps).run later from rfl]
  exact he

end Session
end StreamSupervisor
