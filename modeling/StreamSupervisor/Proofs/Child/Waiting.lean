import Mathlib.Data.List.Forall2
import Mathlib.Data.List.Induction
import StreamSupervisor.Child.Wait

/-! # Waiting to the end

A wait resolves in the first turn that comes after the child's status can be collected, and in no
other. So the token decides what the outcome is called and whether a kill is requested, but not
when the wait is over; and neither does what a turn looks at first. Whatever happens during a turn
might as well have happened just before or just after it.
-/

namespace StreamSupervisor

namespace Occurrence

/-- What collecting the child's status gives from an occurrence on. -/
def end? : Occurrence → Option Collected
  | ends collected => some collected
  | _ => none

/-- The same occurrences, but for what turns look at first and what the kill meets. -/
inductive SameButChoices : Occurrence → Occurrence → Prop where
  | ends (collected : Collected) : SameButChoices (.ends collected) (.ends collected)
  | fires : SameButChoices .fires .fires
  | turn (childFirst childFirst' : Bool) (killFault killFault' : Option Fault) :
    SameButChoices (.turn childFirst killFault) (.turn childFirst' killFault')

end Occurrence

def firstEnd? (occurrences : List Occurrence) : Option Collected :=
  occurrences.findSome? Occurrence.end?

theorem ExitOutcome.classify_decide (collected : Collected) (fired : Prop) [Decidable fired] :
    classify collected (decide fired) = match collected with
      | .fault fault => .waitFailed fault.text
      | .status status =>
        if fired then .cancelled
        else if status.raw = 0 then .completed
        else .failed status.code? := by
  cases collected with
  | fault fault => rfl
  | status status => simp only [classify, decide_eq_true_iff, WaitStatus.success_iff]

namespace Waiter

variable {w w' : Waiter} {occurrence occurrence' : Occurrence} {o : ExitOutcome}
  {occurrences occurrences' : List Occurrence}

@[simp] theorem run_append (w : Waiter) (before after : List Occurrence) :
    w.run (before ++ after) = (w.run before).run after :=
  List.foldl_append

@[simp] theorem run_cons (w : Waiter) (occurrence : Occurrence) (rest : List Occurrence) :
    w.run (occurrence :: rest) = (w.step occurrence).run rest := rfl

@[simp] theorem run_nil (w : Waiter) : w.run [] = w := rfl

/-! ### One occurrence -/

@[simp] theorem requestKill_fired (w : Waiter) (killFault : Option Fault) :
    (w.requestKill killFault).fired = w.fired := rfl

@[simp] theorem requestKill_ended (w : Waiter) (killFault : Option Fault) :
    (w.requestKill killFault).ended = w.ended := rfl

@[simp] theorem requestKill_kills (w : Waiter) (killFault : Option Fault) :
    (w.requestKill killFault).kills = w.kills + 1 := rfl

@[simp] theorem collect_fired (w : Waiter) : w.collect.fired = w.fired := by
  unfold collect
  split <;> rfl

@[simp] theorem collect_ended (w : Waiter) : w.collect.ended = w.ended := by
  unfold collect
  split <;> rfl

@[simp] theorem collect_kills (w : Waiter) : w.collect.kills = w.kills := by
  unfold collect
  split <;> rfl

theorem collect_of_ended {collected : Collected} (h : w.ended = some collected) :
    w.collect.phase = .resolved (.classify collected w.fired) := by
  rw [collect, h]

theorem collect_of_not_ended (h : w.ended = none) : w.collect = w := by
  rw [collect, h]

theorem outcome?_eq_some_iff : w.outcome? = some o ↔ w.phase = .resolved o := by
  unfold outcome?
  cases w.phase <;> simp

/-- A turn requests the kill if the wait still watches and the token has fired, and the turn does
not come upon the child's end first. -/
def Kills (w : Waiter) (childFirst : Bool) : Prop :=
  w.phase = .watching ∧ w.fired = true ∧ (childFirst = false ∨ w.ended = none)

instance (w : Waiter) (childFirst : Bool) : Decidable (w.Kills childFirst) :=
  inferInstanceAs (Decidable (_ ∧ _ ∧ (_ ∨ _)))

theorem takeTurn_cases (w : Waiter) (childFirst : Bool) (killFault : Option Fault) :
    (∃ o, w.outcome? = some o) ∧ ¬ w.Kills childFirst ∧ w.takeTurn childFirst killFault = w ∨
    w.outcome? = none ∧ ¬ w.Kills childFirst ∧ w.takeTurn childFirst killFault = w.collect ∨
    w.outcome? = none ∧ w.Kills childFirst ∧
      w.takeTurn childFirst killFault = (w.requestKill killFault).collect := by
  have hcond : (w.fired && !(childFirst && w.ended.isSome)) = true ↔
      w.fired = true ∧ (childFirst = false ∨ w.ended = none) := by simp
  unfold takeTurn
  split
  case h_1 hphase =>
    have hnone : w.outcome? = none := by rw [outcome?, hphase]
    by_cases h : w.fired = true ∧ (childFirst = false ∨ w.ended = none)
    · exact .inr (.inr ⟨hnone, ⟨hphase, h⟩, if_pos (hcond.mpr h)⟩)
    · exact .inr (.inl ⟨hnone, fun hkills => h hkills.2, if_neg (mt hcond.mp h)⟩)
  case h_2 hphase =>
    have hnone : w.outcome? = none := by rw [outcome?, hphase]
    exact .inr (.inl ⟨hnone, (nomatch hphase.symm.trans ·.1), rfl⟩)
  case h_3 o hphase =>
    exact .inl ⟨⟨o, outcome?_eq_some_iff.mpr hphase⟩,
      (nomatch hphase.symm.trans ·.1), rfl⟩

theorem outcome?_collect (h : w.outcome? = none) :
    w.collect.outcome? = w.ended.map (.classify · w.fired) := by
  cases he : w.ended with
  | none => rwa [collect_of_not_ended he]
  | some collected => exact outcome?_eq_some_iff.mpr (collect_of_ended he)

theorem outcome?_takeTurn (w : Waiter) (childFirst : Bool) (killFault : Option Fault) :
    (w.takeTurn childFirst killFault).outcome? =
      w.outcome?.or (w.ended.map (.classify · w.fired)) := by
  obtain ⟨⟨o, h⟩, -, hturn⟩ | ⟨h, -, hturn⟩ | ⟨h, -, hturn⟩ :=
    w.takeTurn_cases childFirst killFault
  · rw [hturn, h, Option.some_or]
  · rw [hturn, h, Option.none_or, outcome?_collect h]
  · rw [hturn, h, Option.none_or, outcome?_collect rfl, requestKill_ended, requestKill_fired]

@[simp] theorem ended_takeTurn (w : Waiter) (childFirst : Bool) (killFault : Option Fault) :
    (w.takeTurn childFirst killFault).ended = w.ended := by
  obtain ⟨-, -, hturn⟩ | ⟨-, -, hturn⟩ | ⟨-, -, hturn⟩ := w.takeTurn_cases childFirst killFault <;>
    simp [hturn]

@[simp] theorem fired_takeTurn (w : Waiter) (childFirst : Bool) (killFault : Option Fault) :
    (w.takeTurn childFirst killFault).fired = w.fired := by
  obtain ⟨-, -, hturn⟩ | ⟨-, -, hturn⟩ | ⟨-, -, hturn⟩ := w.takeTurn_cases childFirst killFault <;>
    simp [hturn]

theorem kills_takeTurn (w : Waiter) (childFirst : Bool) (killFault : Option Fault) :
    (w.takeTurn childFirst killFault).kills =
      w.kills + if w.Kills childFirst then 1 else 0 := by
  obtain ⟨-, h, hturn⟩ | ⟨-, h, hturn⟩ | ⟨-, h, hturn⟩ := w.takeTurn_cases childFirst killFault <;>
    simp [hturn, h]

theorem ended_step (w : Waiter) (occurrence : Occurrence) :
    (w.step occurrence).ended = w.ended.or occurrence.end? := by
  cases occurrence <;> simp [step, Occurrence.end?]

theorem fired_step_iff :
    (w.step occurrence).fired = true ↔ w.fired = true ∨ occurrence = .fires := by
  cases occurrence <;> simp [step]

theorem outcome?_step_of_some (h : w.outcome? = some o) (occurrence : Occurrence) :
    (w.step occurrence).outcome? = some o := by
  cases occurrence with
  | ends collected => exact h
  | fires => exact h
  | turn childFirst killFault => rw [step, outcome?_takeTurn, h, Option.some_or]

/-! ### Runs -/

/-- What holds of a wait whatever has happened. -/
structure Sound (w : Waiter) : Prop where
  watching : w.phase = .watching → w.kills = 0
  collecting : w.phase = .collecting → w.kills = 1
  kills_le : w.kills ≤ 1
  resolved : ∀ o, w.outcome? = some o → ∃ collected, w.ended = some collected

theorem sound_new : ({} : Waiter).Sound where
  watching _ := rfl
  collecting h := nomatch h
  kills_le := Nat.zero_le 1
  resolved _ h := nomatch h

theorem Sound.collect (h : w.Sound) : w.collect.Sound := by
  cases he : w.ended with
  | none => rwa [collect_of_not_ended he]
  | some collected =>
    have hphase := collect_of_ended he
    refine ⟨fun hp => ?_, fun hp => ?_, by rw [collect_kills]; exact h.kills_le,
      fun o _ => ⟨collected, by rw [collect_ended, he]⟩⟩
    · cases hphase.symm.trans hp
    · cases hphase.symm.trans hp

theorem Sound.takeTurn (h : w.Sound) (childFirst : Bool) (killFault : Option Fault) :
    (w.takeTurn childFirst killFault).Sound := by
  obtain ⟨-, -, hturn⟩ | ⟨-, -, hturn⟩ | ⟨-, hkills, hturn⟩ :=
    w.takeTurn_cases childFirst killFault
  · rwa [hturn]
  · rw [hturn]
    exact h.collect
  · have hzero := h.watching hkills.1
    have hrequested : (w.requestKill killFault).Sound :=
      ⟨nofun, fun _ => by rw [requestKill_kills, hzero], by simp [hzero], nofun⟩
    rw [hturn]
    exact hrequested.collect

theorem Sound.step (h : w.Sound) (occurrence : Occurrence) : (w.step occurrence).Sound := by
  cases occurrence with
  | ends collected =>
    refine ⟨h.watching, h.collecting, h.kills_le, fun o ho => ?_⟩
    obtain ⟨collected', he⟩ := h.resolved o ho
    exact ⟨collected', by rw [ended_step, he, Option.some_or]⟩
  | fires => exact ⟨h.watching, h.collecting, h.kills_le, h.resolved⟩
  | turn childFirst killFault => exact h.takeTurn childFirst killFault

theorem Sound.run (h : w.Sound) (occurrences : List Occurrence) : (w.run occurrences).Sound := by
  induction occurrences generalizing w with
  | nil => exact h
  | cons occurrence rest ih => exact ih (h.step occurrence)

theorem ended_run (w : Waiter) (occurrences : List Occurrence) :
    (w.run occurrences).ended = w.ended.or (firstEnd? occurrences) := by
  induction occurrences generalizing w with
  | nil => rw [run_nil, firstEnd?, List.findSome?_nil, Option.or_none]
  | cons occurrence rest ih =>
    rw [run_cons, ih, ended_step, Option.or_assoc, firstEnd?, firstEnd?, List.findSome?_cons]
    cases occurrence.end? <;> simp

theorem fired_run_iff :
    (w.run occurrences).fired = true ↔ w.fired = true ∨ .fires ∈ occurrences := by
  induction occurrences generalizing w with
  | nil => simp
  | cons occurrence rest ih =>
    rw [run_cons, ih, fired_step_iff, or_assoc, List.mem_cons, eq_comm (a := occurrence)]

theorem outcome?_run_of_some (h : w.outcome? = some o) (occurrences : List Occurrence) :
    (w.run occurrences).outcome? = some o := by
  induction occurrences generalizing w with
  | nil => exact h
  | cons occurrence rest ih => exact ih (outcome?_step_of_some h occurrence)

theorem kills_le_run (w : Waiter) (occurrences : List Occurrence) :
    w.kills ≤ (w.run occurrences).kills := by
  induction occurrences generalizing w with
  | nil => exact Nat.le_refl _
  | cons occurrence rest ih =>
    refine Nat.le_trans ?_ (ih (w.step occurrence))
    cases occurrence with
    | ends collected => exact Nat.le_refl _
    | fires => exact Nat.le_refl _
    | turn childFirst killFault =>
      rw [step, kills_takeTurn]
      exact Nat.le_add_right _ _

theorem Sound.kills_takeTurn_eq_one (h : w.Sound) (hnone : w.outcome? = none)
    (hfired : w.fired = true) {childFirst : Bool} (hlook : childFirst = false ∨ w.ended = none)
    (killFault : Option Fault) : (w.takeTurn childFirst killFault).kills = 1 := by
  rw [kills_takeTurn]
  cases hphase : w.phase with
  | watching => rw [if_pos ⟨hphase, hfired, hlook⟩, h.watching hphase]
  | collecting =>
    have hnot : ¬ w.Kills childFirst := (nomatch hphase.symm.trans ·.1)
    rw [if_neg hnot, h.collecting hphase]
  | resolved o => cases hnone.symm.trans (outcome?_eq_some_iff.mpr hphase)

/-! ### Runs from the start -/

theorem ended_run_new (occurrences : List Occurrence) :
    (({} : Waiter).run occurrences).ended = firstEnd? occurrences := by
  rw [ended_run, Option.none_or]

theorem fired_run_new (occurrences : List Occurrence) :
    (({} : Waiter).run occurrences).fired = decide (.fires ∈ occurrences) := by
  rw [Bool.eq_iff_iff, fired_run_iff, decide_eq_true_iff, or_iff_right Bool.false_ne_true]

theorem outcome?_run_turn (occurrences : List Occurrence) (childFirst : Bool)
    (killFault : Option Fault) :
    (({} : Waiter).run (occurrences ++ [.turn childFirst killFault])).outcome? =
      (({} : Waiter).run occurrences).outcome?.or
        ((firstEnd? occurrences).map (.classify · (decide (.fires ∈ occurrences)))) := by
  rw [run_append, run_cons, run_nil, step, outcome?_takeTurn, ended_run_new, fired_run_new]

theorem exists_turn_of_run {P : Waiter → Prop} (hnew : ¬ P {})
    (hends : ∀ w collected, P (w.step (.ends collected)) → P w)
    (hfires : ∀ w, P (w.step .fires) → P w) (h : P (({} : Waiter).run occurrences)) :
    ∃ before childFirst killFault after,
      occurrences = before ++ .turn childFirst killFault :: after ∧
      ¬ P (({} : Waiter).run before) ∧
      P ((({} : Waiter).run before).takeTurn childFirst killFault) := by
  induction occurrences using List.reverseRecOn with
  | nil => exact (hnew h).elim
  | append_singleton rest occurrence ih =>
    by_cases hrest : P (({} : Waiter).run rest)
    · obtain ⟨before, childFirst, killFault, after, rfl, hbefore⟩ := ih hrest
      exact ⟨before, childFirst, killFault, after ++ [occurrence], by simp, hbefore⟩
    · rw [run_append] at h
      cases occurrence with
      | ends collected => exact (hrest (hends _ collected h)).elim
      | fires => exact (hrest (hfires _ h)).elim
      | turn childFirst killFault => exact ⟨rest, childFirst, killFault, [], rfl, hrest, h⟩

theorem outcome?_run_eq_some_iff :
    (({} : Waiter).run occurrences).outcome? = some o ↔
      ∃ before childFirst killFault after collected,
        occurrences = before ++ .turn childFirst killFault :: after ∧
        (({} : Waiter).run before).outcome? = none ∧ firstEnd? before = some collected ∧
        o = .classify collected (decide (.fires ∈ before)) := by
  constructor
  · intro h
    obtain ⟨before, childFirst, killFault, after, rfl, hbefore, o', hturn⟩ :=
      exists_turn_of_run (P := fun w => ∃ o, w.outcome? = some o) nofun (fun _ _ h => h)
        (fun _ h => h) ⟨o, h⟩
    have hnone : (({} : Waiter).run before).outcome? = none :=
      Option.eq_none_iff_forall_ne_some.mpr fun o ho => hbefore ⟨o, ho⟩
    rw [run_append, run_cons, step, outcome?_run_of_some hturn] at h
    rw [outcome?_takeTurn, hnone, Option.none_or, ended_run_new, fired_run_new] at hturn
    obtain ⟨collected, he, rfl⟩ := Option.map_eq_some_iff.mp (hturn.trans h)
    exact ⟨before, childFirst, killFault, after, collected, rfl, hnone, he, rfl⟩
  · rintro ⟨before, childFirst, killFault, after, collected, rfl, hbefore, he, rfl⟩
    rw [List.append_cons, run_append]
    refine outcome?_run_of_some ?_ after
    rw [outcome?_run_turn, hbefore, he]
    rfl

theorem resolved_run_iff :
    (∃ o, (({} : Waiter).run occurrences).outcome? = some o) ↔
      ∃ before childFirst killFault after collected,
        occurrences = before ++ .turn childFirst killFault :: after ∧
        firstEnd? before = some collected := by
  constructor
  · rintro ⟨o, h⟩
    obtain ⟨before, childFirst, killFault, after, collected, ho, -, he, -⟩ :=
      outcome?_run_eq_some_iff.mp h
    exact ⟨before, childFirst, killFault, after, collected, ho, he⟩
  · rintro ⟨before, childFirst, killFault, after, collected, rfl, he⟩
    have hturn := outcome?_run_turn before childFirst killFault
    rw [he, Option.map_some, Option.or_some] at hturn
    rw [List.append_cons, run_append]
    exact ⟨_, outcome?_run_of_some hturn after⟩

theorem kills_run_eq_one_iff :
    (({} : Waiter).run occurrences).kills = 1 ↔
      ∃ before childFirst killFault after,
        occurrences = before ++ .turn childFirst killFault :: after ∧
        (({} : Waiter).run before).outcome? = none ∧ .fires ∈ before ∧
        (childFirst = false ∨ firstEnd? before = none) := by
  constructor
  · intro h
    obtain ⟨before, childFirst, killFault, after, rfl, hbefore, hturn⟩ :=
      exists_turn_of_run (P := fun w => w.kills = 1) nofun (fun _ _ h => h) (fun _ h => h) h
    rw [kills_takeTurn] at hturn
    split at hturn
    case isTrue hkills =>
      obtain ⟨hphase, hfired, hlook⟩ := hkills
      rw [fired_run_new, decide_eq_true_iff] at hfired
      rw [ended_run_new] at hlook
      exact ⟨before, childFirst, killFault, after, rfl, by rw [outcome?, hphase], hfired, hlook⟩
    case isFalse => exact absurd hturn hbefore
  · rintro ⟨before, childFirst, killFault, after, rfl, hnone, hfires, hlook⟩
    have hsound := sound_new.run before
    rw [← ended_run_new] at hlook
    have hfired : (({} : Waiter).run before).fired = true := by
      rwa [fired_run_new, decide_eq_true_iff]
    have hkills := hsound.kills_takeTurn_eq_one hnone hfired hlook killFault
    have hle := ((hsound.step (.turn childFirst killFault)).run after).kills_le
    have hge := kills_le_run ((({} : Waiter).run before).step (.turn childFirst killFault)) after
    rw [run_append, run_cons]
    rw [step] at hle hge ⊢
    omega

theorem next_turn_of_fires (hfires : .fires ∈ occurrences) (childFirst : Bool)
    (killFault : Option Fault) :
    let next := ({} : Waiter).run (occurrences ++ [.turn childFirst killFault])
    (∃ collected, firstEnd? occurrences = some collected) ∧ (∃ o, next.outcome? = some o) ∨
      firstEnd? occurrences = none ∧ next.outcome? = none ∧ next.kills = 1 := by
  intro next
  have hsound := sound_new.run occurrences
  cases he : firstEnd? occurrences with
  | some collected =>
    exact .inl ⟨⟨collected, rfl⟩, resolved_run_iff.mpr ⟨occurrences, _, _, [], _, rfl, he⟩⟩
  | none =>
    -- without an end the wait cannot have been resolved before
    have hnone : (({} : Waiter).run occurrences).outcome? = none := by
      refine Option.eq_none_iff_forall_ne_some.mpr fun o ho => ?_
      obtain ⟨collected, hended⟩ := hsound.resolved o ho
      rw [ended_run_new, he] at hended
      cases hended
    refine .inr ⟨rfl, ?_, ?_⟩
    · rw [outcome?_run_turn, hnone, he]
      rfl
    · rw [← ended_run_new] at he
      have hfired : (({} : Waiter).run occurrences).fired = true := by
        rwa [fired_run_new, decide_eq_true_iff]
      have hkills := hsound.kills_takeTurn_eq_one hnone hfired
        (.inr he : childFirst = false ∨ _) killFault
      simpa only [next, run_append, run_cons, run_nil, step] using hkills

/-- Two waits that have come to the same and will come to the same. -/
structure Alike (w w' : Waiter) : Prop where
  outcome : w.outcome? = w'.outcome?
  ended : w.ended = w'.ended
  fired : w.fired = w'.fired

theorem Alike.step (h : w.Alike w') (ho : occurrence.SameButChoices occurrence') :
    (w.step occurrence).Alike (w'.step occurrence') := by
  cases ho with
  | ends collected =>
    exact ⟨h.outcome, by rw [ended_step, ended_step, h.ended], h.fired⟩
  | fires => exact ⟨h.outcome, h.ended, rfl⟩
  | turn childFirst childFirst' killFault killFault' =>
    refine ⟨?_, ?_, ?_⟩
    · rw [step, step, outcome?_takeTurn, outcome?_takeTurn, h.outcome, h.ended, h.fired]
    · rw [step, step, ended_takeTurn, ended_takeTurn, h.ended]
    · rw [step, step, fired_takeTurn, fired_takeTurn, h.fired]

theorem Alike.run (h : w.Alike w')
    (hos : List.Forall₂ Occurrence.SameButChoices occurrences occurrences') :
    (w.run occurrences).Alike (w'.run occurrences') := by
  induction hos generalizing w w' with
  | nil => exact h
  | cons ho _ ih => exact ih (h.step ho)

/-- **Waits never abandon a child.** A wait resolves just if it has had a turn since the child's
status could be collected or collecting it failed, and it does so in the first such turn, whatever
the token does. The outcome is that waiting failed if collecting did, else cancelled if the token
had fired by then, and else what the status says. The child is killed at most once, and just if a
turn before that finds that the token has fired and does not come upon an end first. Once the token
has fired, the next turn takes an end that has happened, or else the kill has been requested. When
the end and the token are both there, the outcome is the same whichever the turn looks at first;
and so it is in any run, whatever the kill meets. -/
theorem waits_never_abandon_a_child (occurrences : List Occurrence) :
    let wait (occurrences : List Occurrence) : Waiter := ({} : Waiter).run occurrences
    ((∃ o, (wait occurrences).outcome? = some o) ↔
      ∃ before childFirst killFault after collected,
        occurrences = before ++ .turn childFirst killFault :: after ∧
        firstEnd? before = some collected) ∧
    (∀ o, (wait occurrences).outcome? = some o ↔
      ∃ before childFirst killFault after collected,
        occurrences = before ++ .turn childFirst killFault :: after ∧
        (wait before).outcome? = none ∧ firstEnd? before = some collected ∧
        o = match collected with
          | .fault fault => .waitFailed fault.text
          | .status status =>
            if .fires ∈ before then .cancelled
            else if status.raw = 0 then .completed
            else .failed status.code?) ∧
    (wait occurrences).kills ≤ 1 ∧
    ((wait occurrences).kills = 1 ↔
      ∃ before childFirst killFault after,
        occurrences = before ++ .turn childFirst killFault :: after ∧
        (wait before).outcome? = none ∧ .fires ∈ before ∧
        (childFirst = false ∨ firstEnd? before = none)) ∧
    (.fires ∈ occurrences → ∀ childFirst killFault,
      let next := wait (occurrences ++ [.turn childFirst killFault])
      (∃ collected, firstEnd? occurrences = some collected) ∧ (∃ o, next.outcome? = some o) ∨
        firstEnd? occurrences = none ∧ next.outcome? = none ∧ next.kills = 1) ∧
    (.fires ∈ occurrences → (wait occurrences).outcome? = none → ∀ collected,
      firstEnd? occurrences = some collected → ∀ childFirst killFault,
      (wait (occurrences ++ [.turn childFirst killFault])).outcome? = some
        (match collected with
          | .fault fault => .waitFailed fault.text
          | .status _ => .cancelled)) ∧
    ∀ occurrences', List.Forall₂ Occurrence.SameButChoices occurrences occurrences' →
      (wait occurrences').outcome? = (wait occurrences).outcome? := by
  intro wait
  refine ⟨resolved_run_iff, fun o => ?_, (sound_new.run occurrences).kills_le, kills_run_eq_one_iff,
    next_turn_of_fires, fun hfires hnone collected he childFirst killFault => ?_,
    fun occurrences' h => ((⟨rfl, rfl, rfl⟩ : ({} : Waiter).Alike {}).run h).outcome.symm⟩
  · simp only [wait, outcome?_run_eq_some_iff, ExitOutcome.classify_decide]
  · rw [outcome?_run_turn, hnone, he, decide_eq_true hfires]
    cases collected <;> rfl

/-- The child has failed and the token has fired before a turn sees either of them. Without the end
the turn requests the kill. -/
theorem waits_never_abandon_a_child_both_ready :
    let wait (occurrences : List Occurrence) : Waiter := ({} : Waiter).run occurrences
    let gone : Fault := { kind := .invalidInput }
    let occurrences : List Occurrence := [.turn true none, .ends (.status ⟨256⟩), .fires]
    let otherwise : List Occurrence := [.turn false (some gone), .ends (.status ⟨256⟩), .fires]
    .fires ∈ occurrences ∧ (wait occurrences).outcome? = none ∧
    firstEnd? occurrences = some (.status ⟨256⟩) ∧
    (∀ childFirst killFault,
      (wait (occurrences ++ [.turn childFirst killFault])).outcome? = some .cancelled) ∧
    List.Forall₂ Occurrence.SameButChoices occurrences otherwise ∧
    (wait otherwise).outcome? = (wait occurrences).outcome? ∧
    ∀ childFirst killFault, (wait [.fires, .turn childFirst killFault]).kills = 1 := by
  intro wait gone occurrences otherwise
  obtain ⟨-, -, -, -, -, hready, halike⟩ := waits_never_abandon_a_child occurrences
  obtain ⟨-, -, -, -, hnext, -⟩ := waits_never_abandon_a_child [.fires]
  have hfires : .fires ∈ occurrences := by decide
  have hnone : (wait occurrences).outcome? = none := by decide
  have he : firstEnd? occurrences = some (.status ⟨256⟩) := by decide
  have hsame : List.Forall₂ Occurrence.SameButChoices occurrences otherwise :=
    .cons (.turn ..) (.cons (.ends _) (.cons .fires .nil))
  refine ⟨hfires, hnone, he, hready hfires hnone _ he, hsame, halike _ hsame,
    fun childFirst killFault => ?_⟩
  obtain ⟨⟨_, hended⟩, -⟩ | ⟨-, -, hkills⟩ := hnext (by decide) childFirst killFault
  · cases hended
  · exact hkills

end Waiter

end StreamSupervisor
