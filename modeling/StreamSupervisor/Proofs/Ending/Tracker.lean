import StreamSupervisor.Proofs.Ending.Reaping

/-! # The tracker of the reapers

A process that is launched gets a slot for its exit and a reaper that waits for its end, tells of
it and writes the slot. The tracker knows the reapers that are not done. A supervisor keeps neither
slots nor reapers: it has the exits in its processes, and counts those that are alive. Here slots
and reapers go by what happens and by nothing else, and are always what the supervisor says.
-/

namespace StreamSupervisor

structure Tracker where
  slots : List (Option ExitOutcome) := []
  /-- The reapers that are not done, by the numbers of their slots. -/
  tasks : List Nat := []
deriving DecidableEq, Repr

namespace Tracker

def spawn (t : Tracker) : Tracker where
  slots := t.slots ++ [none]
  tasks := t.tasks ++ [t.slots.length]

/-- A reaper writes its slot and is done. A slot is written once, and by its own reaper. -/
def finish? (t : Tracker) (i : Nat) (o : ExitOutcome) : Option Tracker :=
  if i ∈ t.tasks ∧ t.slots[i]? = some none then
    some { slots := t.slots.set i (some o), tasks := t.tasks.erase i }
  else none

def step? (t : Tracker) : Happening → Option Tracker
  | .launched record => some (if record.failed then t else t.spawn)
  | .reaped i (.ended _ _ o) => t.finish? i o
  | .reaped .. => none
  | _ => some t

/-- The tracker after what has happened, unless a reaper did what it must not. -/
def run? (t : Tracker) (trace : List Happening) : Option Tracker := trace.foldlM step? t

theorem run?_cons (t : Tracker) (e : Happening) (trace : List Happening) :
    t.run? (e :: trace) = (t.step? e).bind (·.run? trace) := List.foldlM_cons

theorem run?_append (t : Tracker) (xs ys : List Happening) :
    t.run? (xs ++ ys) = (t.run? xs).bind (·.run? ys) := List.foldlM_append

theorem run?_filter_answer? (t : Tracker) (trace : List Happening) :
    t.run? (trace.filter (·.answer?.isNone)) = t.run? trace := by
  induction trace generalizing t with
  | nil => rfl
  | cons e trace ih =>
    have hcons (e : Happening) :
        run? t (e :: trace.filter (·.answer?.isNone)) = run? t (e :: trace) := by
      simp only [run?_cons, ih]
    cases e with
    | answered n a => exact ih t
    | _ => exact hcons _

theorem of_run?_reaped {t u : Tracker} {xs ys : List Happening} {i : Nat} {e : Event}
    (h : t.run? (xs ++ .reaped i e :: ys) = some u) :
    ∃ v, t.run? xs = some v ∧ i ∈ v.tasks ∧ v.slots[i]? = some none := by
  rw [run?_append] at h
  obtain ⟨v, hv, h⟩ := Option.bind_eq_some_iff.mp h
  rw [run?_cons] at h
  obtain ⟨w, hw, -⟩ := Option.bind_eq_some_iff.mp h
  cases e with
  | ended c pid o =>
    obtain ⟨hi, -⟩ := Option.ite_none_right_eq_some.mp hw
    exact ⟨v, hv, hi⟩
  | _ => cases hw

/-- Some slots, and the reapers of those that are empty. -/
def ofSlots (slots : List (Option ExitOutcome)) : Tracker where
  slots := slots
  tasks := (List.range slots.length).filter fun i => slots[i]? = some none

section

variable {slots : List (Option ExitOutcome)} {i : Nat} {o : ExitOutcome}

theorem mem_tasks_ofSlots : i ∈ (ofSlots slots).tasks ↔ slots[i]? = some none := by
  simp only [ofSlots, List.mem_filter, List.mem_range, decide_eq_true_eq, and_iff_right_iff_imp]
  exact fun h => (List.getElem?_eq_some_iff.mp h).1

theorem nodup_tasks_ofSlots (slots : List (Option ExitOutcome)) : (ofSlots slots).tasks.Nodup :=
  List.nodup_range.filter _

theorem tasks_ofSlots_append (slots : List (Option ExitOutcome)) (s : Option ExitOutcome) :
    (ofSlots (slots ++ [s])).tasks =
      (ofSlots slots).tasks ++ if s = none then [slots.length] else [] := by
  have hold : (List.range slots.length).filter (fun i => (slots ++ [s])[i]? = some none) =
      (ofSlots slots).tasks := by
    refine List.filter_congr fun i hi => ?_
    rw [List.getElem?_append_left (List.mem_range.mp hi)]
  rw [ofSlots, List.length_append, List.length_singleton, List.range_succ, List.filter_append, hold,
    List.filter_singleton, List.getElem?_concat_length]
  simp only [Option.some.injEq, Bool.cond_decide]

theorem spawn_ofSlots (slots : List (Option ExitOutcome)) :
    (ofSlots slots).spawn = ofSlots (slots ++ [none]) := by
  have htasks : (ofSlots (slots ++ [none])).tasks = (ofSlots slots).tasks ++ [slots.length] := by
    rw [tasks_ofSlots_append, if_pos rfl]
  exact congrArg (Tracker.mk (slots ++ [none])) htasks.symm

theorem finish?_ofSlots (h : slots[i]? = some none) :
    (ofSlots slots).finish? i o = some (ofSlots (slots.set i (some o))) := by
  have htasks : (ofSlots slots).tasks.erase i = (ofSlots (slots.set i (some o))).tasks := by
    rw [(nodup_tasks_ofSlots slots).erase_eq_filter, ofSlots, ofSlots, List.filter_filter,
      List.length_set]
    refine List.filter_congr fun j hj => ?_
    by_cases hji : j = i
    · subst hji
      simp [(List.getElem?_eq_some_iff.mp h).1]
    · simp [hji, Ne.symm hji]
  rw [finish?, if_pos ⟨mem_tasks_ofSlots.mpr h, h⟩, htasks]
  rfl

theorem length_tasks_ofSlots (slots : List (Option ExitOutcome)) :
    (ofSlots slots).tasks.length = slots.countP (·.isNone) := by
  induction slots using List.reverseRecOn with
  | nil => rfl
  | append_singleton slots s ih =>
    rw [tasks_ofSlots_append, List.length_append, ih, List.countP_append]
    cases s <;> rfl

theorem run?_ofSlots_of_launches {trace : List Happening} (h : ∀ i e, .reaped i e ∉ trace) :
    (ofSlots slots).run? trace = some
      (ofSlots (slots ++ List.replicate (trace.filterMap Happening.success?).length none)) := by
  induction trace generalizing slots with
  | nil => simp [run?]
  | cons e trace ih =>
    have hrest : ∀ i e, .reaped i e ∉ trace := fun i e he => h i e (List.mem_cons_of_mem _ he)
    rw [run?_cons]
    cases e with
    | reaped i e => exact (h i e List.mem_cons_self).elim
    | launched record =>
      cases hf : record.failed with
      | true => simp [step?, hf, Happening.success?, ih hrest]
      | false =>
        simp [step?, hf, Happening.success?, spawn_ofSlots, ih hrest, List.replicate_succ]
    | _ => exact ih hrest

end

end Tracker

theorem Process.ending?_cases (p : Process) :
    p.ending? 0 = none ∧ (p.settle 0).exit = p.exit ∨
      p.exit = none ∧ ∃ o, (p.settle 0).exit = some o ∧
        p.ending? 0 = some (.ended p.channel p.pid o) := by
  cases hp : p.exit with
  | some o => exact .inl ⟨by simp [ending?, isAlive, hp], (p.evolves_settle 0).exit o hp⟩
  | none =>
    cases hq : (p.settle 0).exit with
    | none => exact .inl ⟨by simp [ending?, hq], rfl⟩
    | some o => exact .inr ⟨rfl, o, rfl, by simp [ending?, isAlive, hp, hq]⟩

theorem Tracker.run?_ofSlots_settle (slots : List (Option ExitOutcome)) (ps : List Process) :
    (ofSlots (slots ++ ps.map (·.exit))).run?
        ((ps.zipIdx slots.length).filterMap fun p => (p.1.ending? 0).map (.reaped p.2)) =
      some (ofSlots (slots ++ ps.map fun p => (p.settle 0).exit)) := by
  induction ps generalizing slots with
  | nil => simp [run?]
  | cons p ps ih =>
    have ih := ih (slots ++ [(p.settle 0).exit])
    simp only [List.length_append, List.length_singleton, List.append_assoc, List.singleton_append]
      at ih
    rcases p.ending?_cases with ⟨hnone, hexit⟩ | ⟨halive, o, hexit, hsome⟩
    · rw [List.zipIdx_cons, List.filterMap_cons_none (by rw [hnone]; rfl), List.map_cons,
        List.map_cons, ← hexit, ih]
    · have hslot : (slots ++ none :: ps.map (·.exit))[slots.length]? = some none := by simp
      have hset : (slots ++ none :: ps.map (·.exit)).set slots.length (some o) =
          slots ++ some o :: ps.map (·.exit) := by simp
      rw [List.zipIdx_cons, List.filterMap_cons_some (by rw [hsome]; rfl), List.map_cons,
        List.map_cons, halive, run?_cons, step?, finish?_ofSlots hslot, hset, ← hexit]
      exact ih

namespace Supervisor

variable {k : Supervisor Script} {m : Move}

def tracker (k : Supervisor Script) : Tracker := .ofSlots (k.processes.map (·.exit))

theorem map_exit_move (hm : m ≠ .settle) :
    (k.move m).1.processes.map (·.exit) = k.processes.map (·.exit) ++
      List.replicate ((k.move m).2.filterMap Happening.success?).length none := by
  have hlength : (k.move m).1.processes.length =
      k.processes.length + ((k.move m).2.filterMap Happening.success?).length := by
    simpa only [List.length_map, List.length_append] using
      congrArg List.length (k.map_launch_move m)
  refine List.ext_getElem? fun i => ?_
  rw [List.getElem?_map]
  rcases Nat.lt_or_ge i k.processes.length with hi | hi
  · have hp := List.getElem?_eq_getElem hi
    obtain ⟨q, hq, hc⟩ := change_move m hp
    rw [List.getElem?_append_left (by rwa [List.length_map]), List.getElem?_map, hp, hq]
    exact congrArg some (hc.exit hm)
  · rw [List.getElem?_append_right (by rwa [List.length_map]), List.length_map,
      List.getElem?_replicate]
    cases hq : (k.move m).1.processes[i]? with
    | none =>
      have hlast := List.getElem?_eq_none_iff.mp hq
      rw [if_neg (by omega)]
      rfl
    | some q =>
      obtain ⟨-, -, -, hexit, -⟩ := process_of_move hi hq
      have hlt := (List.getElem?_eq_some_iff.mp hq).1
      rw [if_pos (by omega), ← hexit]
      rfl

theorem tracker_move (k : Supervisor Script) (m : Move) :
    k.tracker.run? (k.move m).2 = some (k.move m).1.tracker := by
  by_cases hm : m = .settle
  · subst hm
    have hsettle := Tracker.run?_ofSlots_settle [] k.processes
    have hexits : (k.move .settle).1.tracker =
        .ofSlots (k.processes.map fun p => (p.settle 0).exit) := by
      simp only [tracker, move, settle, List.map_map, Function.comp_def]
    rw [hexits]
    exact hsettle
  · rw [tracker, Tracker.run?_ofSlots_of_launches fun i e => reaped_not_mem_move hm, tracker,
      map_exit_move hm]

theorem tracker_after (k : Supervisor Script) (ms : List Move) :
    k.tracker.run? (k.trace ms) = some (k.after ms).tracker := by
  induction ms generalizing k with
  | nil => rfl
  | cons m ms ih =>
    rw [trace_cons, Tracker.run?_append, tracker_move]
    exact ih _

theorem length_tasks_tracker (k : Supervisor Script) : k.tracker.tasks.length = k.pending := by
  rw [tracker, Tracker.length_tasks_ofSlots, List.countP_map]
  rfl

theorem exit?_eq_slots (k : Supervisor Script) (i : Nat) :
    k.exit? (.process i) = k.tracker.slots[i]?.join := by
  rw [exit?, tracker, Tracker.ofSlots, List.getElem?_map]
  cases k.processes[i]? <;> rfl

end Supervisor

namespace Session

open Supervisor

variable {x : Session Script} {calls : List Call} {s : Step} {n : Nat} {a : Answer}

theorem tracker_run (g : Settings) (steps : List Step) :
    Tracker.run? {} ((fresh g).trace steps) = some ((fresh g).run steps).supervisor.tracker := by
  have hfresh : (fresh g).supervisor.tracker = {} := rfl
  rw [← Tracker.run?_filter_answer?, filter_trace, Tracker.run?_filter_answer?, run_supervisor,
    ← hfresh, tracker_after]

theorem Numbered.tracker_of_answered (h : x.Numbered calls) {later : List Call}
    (hn : (calls ++ s.calls ++ later)[n]? = some .shutdown) {early late : List Happening}
    (ha : (x.step s).trace = early ++ .answered n a :: late) :
    ∃ t, x.supervisor.tracker.run? early = some t ∧ t.tasks = [] := by
  have hpending : (x.step s).state.supervisor.pending = 0 := by
    refine (of_mem_returning (h.returning_of_answered hn (a := a) ?_)).1
    rw [ha]
    exact List.mem_append_right _ List.mem_cons_self
  refine ⟨(x.step s).state.supervisor.tracker, ?_, List.length_eq_zero_iff.mp ?_⟩
  · -- what is answered by moves comes before the shutdown, and only returns come between
    rw [step_trace] at ha
    rcases List.append_eq_append_iff.mp ha with
      ⟨returned, hearly, hreturned⟩ | ⟨late', hmoves, hlate⟩
    · have hanswers : returned.filter (·.answer?.isNone) = [] := by
        refine List.filter_eq_nil_iff.mpr fun e he => ?_
        have hmem : e ∈ (x.returning s).map fun n => .answered n .done :=
          hreturned ▸ List.mem_append_left _ he
        obtain ⟨i, -, rfl⟩ := List.mem_map.mp hmem
        simp [Happening.answer?]
      rw [hearly, Tracker.run?_append, tracker_after, Option.bind_some,
        ← Tracker.run?_filter_answer?, hanswers, step_supervisor]
      rfl
    · cases late' with
      | nil =>
        rw [List.append_nil] at hmoves
        rw [← hmoves, tracker_after, step_supervisor]
      | cons e late' =>
        obtain ⟨rfl, -⟩ := List.cons.inj hlate
        refine (h.answered_not_mem_moves hn (a := a) ?_).elim
        rw [hmoves]
        exact List.mem_append_right _ List.mem_cons_self
  · rw [length_tasks_tracker, hpending]

/-- **The reapers account for the processes.** Follow what happens in a session with nothing but a
slot and a reaper for each launch that succeeds. Whenever an end is told of, its reaper is not done
yet and its slot is empty; and whenever a shutdown returns, every reaper is done. At any time the
slots are the exits on record, the reapers that are not done are those whose slots are empty, and
there are as many of them as processes that are waited for. -/
theorem reapers_account_for_processes (g : Settings) (steps : List Step) :
    let k := ((fresh g).run steps).supervisor
    let trace := (fresh g).trace steps
    (∀ before i e rest, trace = before ++ .reaped i e :: rest →
      ∃ t, Tracker.run? {} before = some t ∧ i ∈ t.tasks ∧ t.slots[i]? = some none) ∧
    (∀ before n a rest, trace = before ++ .answered n a :: rest →
      (steps.flatMap Step.calls)[n]? = some .shutdown →
      ∃ t, Tracker.run? {} before = some t ∧ t.tasks = []) ∧
    ∃ t, Tracker.run? {} trace = some t ∧ t.slots = k.processes.map (·.exit) ∧
      (∀ i, t.slots[i]?.join = k.exit? (.process i)) ∧
      (∀ i, i ∈ t.tasks ↔ t.slots[i]? = some none) ∧ t.tasks.Nodup ∧
      t.tasks.length = k.pending := by
  intro k trace
  have hrun : Tracker.run? {} trace = some k.tracker := tracker_run g steps
  refine ⟨fun before i e rest htrace => Tracker.of_run?_reaped (htrace ▸ hrun),
    fun before n a rest htrace hn => ?_, k.tracker, hrun, rfl, fun i => (k.exit?_eq_slots i).symm,
    fun i => Tracker.mem_tasks_ofSlots, Tracker.nodup_tasks_ofSlots _, k.length_tasks_tracker⟩
  obtain ⟨done, s, later, early, late, rfl, rfl, hstep⟩ := step_of_trace htrace
  rw [List.flatMap_append, List.flatMap_cons, ← List.append_assoc] at hn
  obtain ⟨t, ht, htasks⟩ := ((numbered_fresh g).run done).tracker_of_answered hn hstep
  exact ⟨t, by rw [Tracker.run?_append, tracker_run, Option.bind_some, ht], htasks⟩

end Session
end StreamSupervisor
