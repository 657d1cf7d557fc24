import StreamSupervisor.Proofs.Lock.Account

/-! # No call gets stuck

The calls that are not answered are those in line, who wait for the registry to be given
back, and the shutdowns that were served, who wait for a process to end. With the registry
free only the latter are left, and they all return once no process is alive.
-/

namespace StreamSupervisor

namespace Supervisor

theorem pending_eq_zero_iff {k : Supervisor Script} :
    k.pending = 0 ↔ ∀ p ∈ k.processes, ∃ o, p.exit = some o := by
  simp [pending, List.countP_eq_zero, Process.isAlive, Option.ne_none_iff_exists']

theorem pending_ne_zero_iff {k : Supervisor Script} :
    k.pending ≠ 0 ↔ ∃ p ∈ k.processes, p.exit = none := by
  simp [pending, List.countP_eq_zero, Process.isAlive]

end Supervisor

namespace Session

open Supervisor

variable {g : Settings} {steps : List Step} {n : Nat}

def Unfinished (g : Settings) (steps : List Step) (n : Nat) : Prop :=
  n < (steps.flatMap Step.calls).length ∧ ∀ a, .answered n a ∉ (fresh g).trace steps

theorem unfinished_iff : Unfinished g steps n ↔
    (∃ r, (n, r) ∈ ((fresh g).run steps).queue) ∨ n ∈ ((fresh g).run steps).draining := by
  have hperm := accounted g steps
  have hq : (∃ r, (n, r) ∈ ((fresh g).run steps).queue) ↔
      n ∈ ((fresh g).run steps).queue.map (·.1) := by simp
  have hnot : (∀ a, .answered n a ∉ (fresh g).trace steps) ↔
      n ∉ answered ((fresh g).trace steps) := by simp [mem_answered]
  obtain ⟨-, -, hdisjoint⟩ := List.nodup_append.mp (hperm.nodup_iff.mpr List.nodup_range)
  rw [Unfinished, hnot, hq, or_comm, ← List.mem_append, ← List.mem_range, ← hperm.mem_iff,
    List.mem_append]
  constructor
  · rintro ⟨hn, hna⟩
    exact hn.resolve_left hna
  · intro hn
    exact ⟨.inr hn, fun hna => hdisjoint n hna n hn rfl⟩

theorem mem_waiting_iff : n ∈ ((fresh g).run steps).waiting ↔ Unfinished g steps n := by
  rw [unfinished_iff, waiting, List.mem_mergeSort, List.mem_append]
  simp

theorem calls_of_serve_shutdown (h : .serve n .shutdown ∈ (fresh g).moves steps) :
    (steps.flatMap Step.calls)[n]? = some .shutdown := by
  obtain ⟨call, hn, ha⟩ := (numbered_fresh g).moves steps _ h
  rw [Call.eq_shutdown_of_asks ha, List.nil_append] at hn
  exact hn

theorem mem_draining_iff : n ∈ ((fresh g).run steps).draining ↔
    .serve n .shutdown ∈ (fresh g).moves steps ∧ ((fresh g).run steps).supervisor.pending ≠ 0 := by
  constructor
  · intro h
    exact ⟨(serve_mem_moves_of_draining h).resolve_left (by simp [fresh]),
      pending_ne_zero_of_draining h⟩
  · rintro ⟨h, hp⟩
    exact draining_of_serve_mem_moves h fun a ha =>
      hp (shutDown_and_pending_of_answered (calls_of_serve_shutdown h) ha).2

theorem mem_waiting : n ∈ ((fresh g).run steps).waiting ↔
    (∃ r, (n, r) ∈ ((fresh g).run steps).queue) ∨
      .serve n .shutdown ∈ (fresh g).moves steps ∧
        ((fresh g).run steps).supervisor.pending ≠ 0 := by
  rw [mem_waiting_iff, unfinished_iff, mem_draining_iff]

theorem answered_iff_pending {s : Step}
    (h : .serve n .shutdown ∈ (fresh g).moves (steps ++ [s]))
    (hn : ∀ a, .answered n a ∉ (fresh g).trace steps) :
    .answered n .done ∈ (((fresh g).run steps).step s).trace ↔
      (((fresh g).run steps).step s).state.supervisor.pending = 0 := by
  have hact : n ∈ (((fresh g).run steps).act s).state.draining := by
    rw [moves_append, List.mem_append] at h
    rw [act_draining, List.mem_append]
    rcases h with h | h
    · exact .inl (draining_of_serve_mem_moves h hn)
    · refine .inr (List.mem_filterMap.mpr ⟨.serve n .shutdown, ?_, rfl⟩)
      simpa [moves] using h
  have hx : ((fresh g).run steps).Numbered (steps.flatMap Step.calls) :=
    (numbered_fresh g).run steps
  constructor
  · intro ha
    have hcall : (steps.flatMap Step.calls ++ s.calls ++ [])[n]? = some .shutdown := by
      rw [List.append_nil]
      exact (hx.act s).1.draining n hact
    exact (of_mem_returning (hx.returning_of_answered hcall ha)).1
  · intro hp
    rw [step_trace, returning, if_pos hp]
    exact List.mem_append_right _ (List.mem_map_of_mem hact)

/-- **No call gets stuck.** With the registry free, the calls that are not answered are
shutdowns, and there are such only while a process has not ended. While the registry is held
they are the calls in line, and the shutdowns that had the registry while a process has not
ended. A shutdown that had the registry returns in the step, held or not, that leaves no
process running, and in no other. -/
theorem unanswered_calls_wait_for_registry_or_processes (g : Settings) (steps : List Step) :
    let x := (fresh g).run steps
    (∀ n, n ∈ x.waiting ↔ Unfinished g steps n) ∧
    (x.held = false →
      (∀ n, Unfinished g steps n ↔ (steps.flatMap Step.calls)[n]? = some .shutdown ∧
        ∀ a, .answered n a ∉ (fresh g).trace steps) ∧
      ((∃ n, Unfinished g steps n) → ∃ p ∈ x.supervisor.processes, p.exit = none)) ∧
    (x.held = true → ∀ n, Unfinished g steps n ↔ (∃ r, (n, r) ∈ x.queue) ∨
      .serve n .shutdown ∈ (fresh g).moves steps ∧ ∃ p ∈ x.supervisor.processes, p.exit = none) ∧
    ∀ s n, .serve n .shutdown ∈ (fresh g).moves (steps ++ [s]) →
      (∀ a, .answered n a ∉ (fresh g).trace steps) →
      (.answered n .done ∈ (x.step s).trace ↔
        ∀ p ∈ (x.step s).state.supervisor.processes, ∃ o, p.exit = some o) := by
  intro x
  have hx : x.Numbered (steps.flatMap Step.calls) := (numbered_fresh g).run steps
  have halive {n : Nat} (hn : n ∈ x.draining) : ∃ p ∈ x.supervisor.processes, p.exit = none :=
    pending_ne_zero_iff.mp (pending_ne_zero_of_draining hn)
  refine ⟨fun n => mem_waiting_iff, fun hheld => ?_, fun hheld n => ?_, fun s n hs hn => ?_⟩
  · have hqueue : x.queue = [] := idle_run g steps hheld
    have hdraining {n : Nat} (hn : Unfinished g steps n) : n ∈ x.draining := by
      rcases unfinished_iff.mp hn with ⟨r, hr⟩ | hn
      · rw [hqueue] at hr
        cases hr
      · exact hn
    refine ⟨fun n => ⟨fun hn => ⟨hx.draining n (hdraining hn), hn.2⟩, ?_⟩, ?_⟩
    · rintro ⟨hn, ha⟩
      exact ⟨(List.getElem?_eq_some_iff.mp hn).1, ha⟩
    · rintro ⟨n, hn⟩
      exact halive (hdraining hn)
  · rw [unfinished_iff, mem_draining_iff, pending_ne_zero_iff]
  · rw [answered_iff_pending hs hn, pending_eq_zero_iff]

/-- Two shutdowns wait for a process that ignores its token. They both return when it ends,
while the registry is held and a call stands in line for it. -/
theorem unanswered_calls_wait_held :
    let steps : List Step :=
      [.script [.succeed .numbered .untilTold], .call (.start "audio" { source := "tone" }),
        .call .shutdown, .call .shutdown, .hold, .call .list, .call (.stop "radio")]
    let x := (fresh {}).run steps
    let t := x.step (.exit 0 (.status (.exited 0)))
    x.held = true ∧ x.queue = [(3, .list)] ∧ (∀ n, n ∈ x.waiting ↔ Unfinished {} steps n) ∧
      Unfinished {} steps 1 ∧ Unfinished {} steps 2 ∧ Unfinished {} steps 3 ∧
      .answered 1 .done ∈ t.trace ∧ .answered 2 .done ∈ t.trace := by
  intro steps x t
  have hheld : x.held = true := by decide
  have hserve : .serve 1 .shutdown ∈ (fresh {}).moves (steps ++ [.exit 0 (.status (.exited 0))]) ∧
      .serve 2 .shutdown ∈ (fresh {}).moves (steps ++ [.exit 0 (.status (.exited 0))]) := by decide
  have hended : ∀ p ∈ t.state.supervisor.processes, ∃ o, p.exit = some o := by
    rw [← pending_eq_zero_iff]
    decide
  obtain ⟨hwaiting, -, hunfinished, hreturn⟩ :=
    unanswered_calls_wait_for_registry_or_processes {} steps
  have h1 : Unfinished {} steps 1 :=
    (hunfinished hheld 1).mpr (.inr ⟨by decide, pending_ne_zero_iff.mp (by decide)⟩)
  have h2 : Unfinished {} steps 2 :=
    (hunfinished hheld 2).mpr (.inr ⟨by decide, pending_ne_zero_iff.mp (by decide)⟩)
  have h3 : Unfinished {} steps 3 := (hunfinished hheld 3).mpr (.inl ⟨.list, by decide⟩)
  exact ⟨hheld, by decide, hwaiting, h1, h2, h3, (hreturn _ 1 hserve.1 h1.2).mpr hended,
    (hreturn _ 2 hserve.2 h2.2).mpr hended⟩

end Session
end StreamSupervisor
