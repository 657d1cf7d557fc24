import StreamSupervisor.Proofs.Token.Ownership

/-! # Handing a channel over

Whenever the launcher is called, the channel shows nothing and everybody who was launched
on it before has been asked to stop, unless a guard call hid a handle. So at no instant,
not even within a start, are two processes of one channel left to run.
-/

namespace StreamSupervisor

namespace Supervisor

variable {k k' : Supervisor Script} {ms : List Move} {c : Channel} {i : Nat} {p q : Process}

theorem UnfiredShown.after (h : k.UnfiredShown)
    (hg : ∀ call, .guard call ∈ ms → call.displaces = false) : (k.after ms).UnfiredShown := by
  refine after_induction h ?_
  rintro m hm k hk
  refine hk.move ?_
  rintro call rfl
  exact hg call hm

theorem Exclusive.of_withdrawn {cs : Channel → Bool} (h : k.Exclusive) (hw : Withdrawn cs k k') :
    k'.Exclusive := by
  intro i j p q hp hq hc hpf hqf
  obtain ⟨p', hp', he, hf⟩ := hw.process_of hp
  obtain ⟨q', hq', he', hf'⟩ := hw.process_of hq
  refine h i j p' q' hp' hq' (he.channel.symm.trans (hc.trans he'.channel)) ?_ ?_
  · by_contra hn
    simp [hf.mpr (.inl (by simpa using hn))] at hpf
  · by_contra hn
    simp [hf'.mpr (.inl (by simpa using hn))] at hqf

theorem UnfiredShown.fired_of_vacate (h : k.UnfiredShown) (hp : p ∈ (k.vacate c).processes)
    (hc : p.channel = c) : p.fired = true := by
  obtain ⟨i, hi⟩ := List.mem_iff_getElem?.mp hp
  obtain ⟨q, hq, he, hf⟩ := (k.withdrawn_vacate c).process_of hi
  cases hqf : q.fired with
  | true => exact he.fired hqf
  | false =>
    have hs := h i q hq hqf
    exact hf.mpr (.inr (ownedIn_iff.mpr ⟨c, by simp, (he.channel.symm.trans hc) ▸ hs⟩))

end Supervisor

namespace Session

open Supervisor

/-- **Cancel before launch.** Every call of the launcher is made by a start, once it has made
its channel `c` free: the new token has not fired then, no shutdown was issued before, and `c`
shows nothing. Unless a guard call displaced a handle before, every process launched earlier
on `c` has been asked to stop at that moment, and neither between two moves nor within a start
are there two processes on a channel that have not been. -/
theorem launch_finds_channel_free (g : Settings) (steps : List Step) :
    let k₀ := (fresh g).supervisor
    (∀ r, .launched r ∈ (fresh g).trace steps →
      k₀.Sometime ((fresh g).moves steps) fun k m => .launched r ∈ (k.move m).2) ∧
    (∀ before m rest r, (fresh g).moves steps = before ++ m :: rest →
      .launched r ∈ ((k₀.after before).move m).2 →
      ∃ n c s, m = .serve n (.start c s) ∧
        let k := (k₀.after before).vacate c
        ((k₀.after before).move m).1 = (k.launch c s).state ∧
        r = k.launchRecord c (arguments g c s) r.failed ∧
        r.fired = false ∧ (∀ i, .issue i .shutdown ∉ before) ∧ k.registry.get c = none ∧
        ((∀ call, .guard call ∈ before → call.displaces = false) →
          ∀ p ∈ k.processes, p.channel = c → p.fired = true)) ∧
    ∀ before rest, (fresh g).moves steps = before ++ rest →
      (∀ call, .guard call ∈ before → call.displaces = false) →
      (k₀.after before).Exclusive ∧ ∀ c, ((k₀.after before).vacate c).Exclusive := by
  intro k₀
  have hu {before : List Move} (hg : ∀ call, .guard call ∈ before → call.displaces = false) :
      (k₀.after before).UnfiredShown :=
    UnfiredShown.after (by simp [UnfiredShown, k₀, fresh]) hg
  refine ⟨fun r hr => Supervisor.mem_trace_iff.mp ((mem_trace_iff rfl).mp hr), ?_, ?_⟩
  · rintro before m rest r - hr
    obtain ⟨n, c, s, rfl, hl, hrec⟩ := mem_move_launched hr
    obtain ⟨_, hstart⟩ := start_of_launches hl
    have hk : (k₀.after before).shutDown = false := by
      cases h : (k₀.after before).shutDown <;> simp [launches, h] at hl ⊢
    have hs : (k₀.after before).settings = g := k₀.settings_after before
    refine ⟨n, c, s, rfl, congrArg Turn.state hstart, hs ▸ hrec, ?_, fun i hi => ?_, ?_,
      fun hg p hp => (hu hg).fired_of_vacate hp⟩
    · rw [hrec]
      exact ((k₀.after before).withdrawn_vacate c).shutDown.trans hk
    · simp [shutDown_after.mpr (.inr ⟨i, hi⟩)] at hk
    · simp [vacate_registry_get]
  · rintro before rest - hg
    exact ⟨(hu hg).exclusive, fun c => (hu hg).exclusive.of_withdrawn (withdrawn_vacate _ c)⟩

theorem launch_finds_channel_free_restart :
    let start : Request := .start .audio { source := "tone", restart := true }
    let call : Call := .start "audio" { source := "tone", restart := true }
    let before : List Move := [.issue 0 call, .serve 0 start, .settle, .issue 1 call]
    let k := (fresh {}).supervisor.after before
    let r := (k.vacate .audio).launchRecord .audio
      (arguments {} .audio { source := "tone", restart := true }) false
    (fresh {}).moves [.call call, .call call] = before ++ .serve 1 start :: [.settle] ∧
      .launched r ∈ (k.move (.serve 1 start)).2 ∧
      r.fired = false ∧ (k.vacate .audio).registry.get .audio = none ∧
      (∀ p ∈ (k.vacate .audio).processes, p.channel = .audio → p.fired = true) ∧
      k.Exclusive ∧ (k.vacate .audio).Exclusive := by
  intro start call before k r
  have hms : (fresh {}).moves [.call call, .call call] = before ++ .serve 1 start :: [.settle] := by
    decide
  have hr : .launched r ∈ (k.move (.serve 1 start)).2 := by decide
  have hg : ∀ call, .guard call ∈ before → call.displaces = false := by simp [before]
  obtain ⟨-, hlaunch, hone⟩ := launch_finds_channel_free {} [.call call, .call call]
  obtain ⟨n, c, s, hm, -, -, hf, -, hfree, hfired⟩ := hlaunch before _ _ r hms hr
  obtain ⟨-, rfl, -⟩ : 1 = n ∧ .audio = c ∧ { source := "tone", restart := true } = s := by
    simpa [start] using hm
  obtain ⟨hk, hv⟩ := hone before _ hms hg
  exact ⟨hms, hr, hf, hfree, hfired hg, hk, hv .audio⟩

end Session
end StreamSupervisor
