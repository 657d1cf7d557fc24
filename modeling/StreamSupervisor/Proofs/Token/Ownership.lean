import Mathlib.Data.List.Induction
import StreamSupervisor.Proofs.Session.Numbers
import StreamSupervisor.Proofs.Token.Effect

/-! # Who has been asked to stop

The registry shows the processes that nobody asked to stop, and a token has fired exactly
if its handle was taken out to stop it, or was cancelled by hand, or everything was shut
down. Both follow from what one move does.
-/

namespace StreamSupervisor

def Move.dismisses : Move → Bool
  | serve _ (.start _ s) => s.restart
  | serve _ (.stop _) | serve _ .stopAll => true
  | _ => false

namespace Supervisor

variable {k : Supervisor Script} {m : Move} {ms : List Move} {c : Channel} {i : Nat} {p q : Process}

/-- A move to stop something takes the handle of a process out of the registry. -/
def Dismisses (k : Supervisor Script) (m : Move) (i : Nat) : Prop :=
  m.dismisses = true ∧ (∃ c, k.Shows c i) ∧ ¬ ∃ c, (k.move m).1.Shows c i

/-- The handle of a process is cancelled by hand while it is an entry. -/
def Cancels (k : Supervisor Script) (m : Move) (i : Nat) : Prop :=
  ∃ c, m = .guard (.cancel c) ∧ k.Shows c i

def Backed (k : Supervisor Script) : Prop :=
  ∀ c i, k.Shows c i → ∃ p, k.processes[i]? = some p ∧ p.channel = c

def Quenched (k : Supervisor Script) : Prop :=
  k.shutDown = true → ∀ (i : Nat) (p : Process), k.processes[i]? = some p → p.fired = true

/-- Whoever has not been asked to stop is shown. -/
def UnfiredShown (k : Supervisor Script) : Prop :=
  ∀ (i : Nat) (p : Process), k.processes[i]? = some p → p.fired = false → k.Shows p.channel i

/-- Whoever is shown has not been asked to stop. -/
def ShownUnfired (k : Supervisor Script) : Prop :=
  ∀ c (i : Nat) (p : Process), k.processes[i]? = some p → k.Shows c i → p.fired = false

def Exclusive (k : Supervisor Script) : Prop :=
  ∀ (i j : Nat) (p q : Process), k.processes[i]? = some p → k.processes[j]? = some q →
    p.channel = q.channel → p.fired = false → q.fired = false → i = j

theorem UnfiredShown.exclusive (h : k.UnfiredShown) : k.Exclusive := by
  intro i j p q hp hq hc hpf hqf
  exact (hc ▸ h i p hp hpf).unique (h j q hq hqf)

theorem Backed.shows_unique (h : k.Backed) {d : Channel} (hc : k.Shows c i) (hd : k.Shows d i) :
    c = d := by
  obtain ⟨p, hp, rfl⟩ := h c i hc
  obtain ⟨q, hq, rfl⟩ := h d i hd
  rw [Option.some.inj (hp.symm.trans hq)]

theorem Shows.move (h : k.Shows c i) (hc : ¬ k.Clears m c) : (k.move m).1.Shows c i :=
  (owner?_move hc).trans h

theorem shows_of_move (h : (k.move m).1.Shows c i) :
    k.Shows c i ∧ ¬ k.Clears m c ∨
      i = k.processes.length ∧ ∃ q, (k.move m).1.processes[i]? = some q ∧ q.channel = c := by
  by_cases hc : k.Clears m c
  · rcases owner?_move_of_clears hc with ho | ⟨j, ho⟩ | ⟨ho, hq⟩ <;> rw [Shows, ho] at h
    · cases h
    · cases h
    · obtain rfl : k.processes.length = i := by simpa using h
      exact .inr ⟨rfl, hq⟩
  · exact .inl ⟨(owner?_move hc).symm.trans h, hc⟩

theorem process_cases (m : Move) (hq : (k.move m).1.processes[i]? = some q) :
    (∃ p, k.processes[i]? = some p ∧ p.Evolves q ∧
      (q.fired = true ↔ p.fired = true ∨ k.Fires m i)) ∨ k.processes.length ≤ i := by
  cases hp : k.processes[i]? with
  | none => exact .inr (List.getElem?_eq_none_iff.mp hp)
  | some p =>
    obtain ⟨q', hq', h⟩ := process_move m hp
    obtain rfl := Option.some.inj (hq'.symm.trans hq)
    exact .inl ⟨p, rfl, h⟩

theorem Backed.move (h : k.Backed) (m : Move) : (k.move m).1.Backed := by
  intro c i hs
  rcases shows_of_move hs with ⟨hs, -⟩ | ⟨-, hq⟩
  · obtain ⟨p, hp, hc⟩ := h c i hs
    obtain ⟨q, hq, he, -⟩ := process_move m hp
    exact ⟨q, hq, he.channel.trans hc⟩
  · exact hq

theorem Quenched.move (h : k.Quenched) (m : Move) : (k.move m).1.Quenched := by
  intro hs i q hq
  rcases process_cases m hq with ⟨p, hp, he, hf⟩ | hi
  · rcases shutDown_move.mp hs with hk | ⟨n, rfl⟩
    · exact he.fired (h hk i p hp)
    · exact hf.mpr (.inr rfl)
  · obtain ⟨-, hk, -, -, -, n, s, rfl⟩ := process_of_move hi hq
    rcases shutDown_move.mp hs with hk' | ⟨n, hn⟩
    · simp [hk] at hk'
    · cases hn

theorem UnfiredShown.move (h : k.UnfiredShown)
    (hm : ∀ call, m = .guard call → call.displaces = false) : (k.move m).1.UnfiredShown := by
  intro i q hq hf
  rcases process_cases m hq with ⟨p, hp, he, hfired⟩ | hi
  · have hpf : ¬ (p.fired = true ∨ k.Fires m i) := by rw [← hfired, hf]; simp
    have hs := h i p hp (by simpa using fun hp => hpf (.inl hp))
    rw [he.channel]
    refine hs.move fun hc => ?_
    cases m with
    | serve n r => exact hpf (.inr (ownedIn_iff.mpr ⟨_, hc, hs⟩))
    | guard call => cases call <;> simp_all [Clears, GuardCall.displaces]
    | _ => exact hc
  · exact (process_of_move hi hq).2.2.2.2.1

theorem ShownUnfired.move (h : k.ShownUnfired) (hb : k.Backed)
    (hm : ∀ c, m ≠ .guard (.cancel c)) (hs : ∀ n, m ≠ .issue n .shutdown) :
    (k.move m).1.ShownUnfired := by
  intro c i q hq hc
  rcases process_cases m hq with ⟨p, hp, he, hfired⟩ | hi
  · rcases shows_of_move hc with ⟨hk, hn⟩ | ⟨rfl, -⟩
    · have hpf : ¬ (p.fired = true ∨ k.Fires m i) := by
        rintro (hp' | hf)
        · simp [h c i p hp hk] at hp'
        · cases m with
          | issue n call => exact hs n (by rw [show call = .shutdown from hf])
          | serve n r =>
            obtain ⟨d, hd, hd'⟩ := ownedIn_iff.mp hf
            exact hn (hb.shows_unique hd' hk ▸ hd)
          | guard call => cases call <;> first | exact hm _ rfl | exact hf
          | _ => exact hf
      rw [← hfired] at hpf
      simpa using hpf
    · simp at hp
  · exact (process_of_move hi hq).2.2.1

theorem not_shows_of_clears (hb : k.Backed) (hs : k.Shows c i) (hc : k.Clears m c) :
    ¬ ∃ d, (k.move m).1.Shows d i := by
  rintro ⟨d, hd⟩
  rcases shows_of_move hd with ⟨hd, hn⟩ | ⟨rfl, -⟩
  · exact hn (hb.shows_unique hs hd ▸ hc)
  · obtain ⟨p, hp, -⟩ := hb c _ hs
    simp at hp

/-- A move asks a process to stop through its handle. -/
def AsksToStop (k : Supervisor Script) (m : Move) (i : Nat) : Prop :=
  k.Dismisses m i ∨ k.Cancels m i ∨ (∃ n, m = .serve n .shutdown) ∧ ∃ c, k.Shows c i

theorem AsksToStop.shows (h : k.AsksToStop m i) : ∃ c, k.Shows c i := by
  rcases h with ⟨-, hs, -⟩ | ⟨c, -, hs⟩ | ⟨-, hs⟩
  · exact hs
  · exact ⟨c, hs⟩
  · exact hs

theorem fires_iff (hb : k.Backed) :
    k.Fires m i ↔ (∃ n, m = .issue n .shutdown) ∨ k.AsksToStop m i := by
  constructor
  · intro h
    cases m with
    | issue n call => exact .inl ⟨n, by rw [show call = .shutdown from h]⟩
    | serve n r =>
      obtain ⟨c, hc, hs⟩ := ownedIn_iff.mp h
      have hout := not_shows_of_clears (m := .serve n r) hb hs hc
      cases r with
      | start d s =>
        have hd : s.restart = true := by
          obtain ⟨e, he, -⟩ := shows_iff.mp hs
          simp only [withdraws, launches, Bool.and_eq_true, decide_eq_true_eq] at hc
          obtain ⟨⟨-, hl⟩, rfl⟩ := hc
          simpa [Slots.contains, he] using hl
        exact .inr (.inl ⟨hd, ⟨c, hs⟩, hout⟩)
      | stop d => exact .inr (.inl ⟨rfl, ⟨c, hs⟩, hout⟩)
      | stopAll => exact .inr (.inl ⟨rfl, ⟨c, hs⟩, hout⟩)
      | shutdown => exact .inr (.inr (.inr ⟨⟨n, rfl⟩, c, hs⟩))
      | _ => cases hc
    | guard call =>
      cases call with
      | cancel c => exact .inr (.inr (.inl ⟨c, rfl, h⟩))
      | _ => exact h.elim
    | _ => exact h.elim
  · rintro (⟨n, rfl⟩ | ⟨hd, ⟨c, hs⟩, hout⟩ | ⟨c, rfl, hs⟩ | ⟨⟨n, rfl⟩, c, hs⟩)
    · rfl
    · have hc : k.Clears m c := by
        by_contra hc
        exact hout ⟨c, hs.move hc⟩
      cases m with
      | serve n r => exact ownedIn_iff.mpr ⟨c, hc, hs⟩
      | _ => cases hd
    · exact hs
    · exact ownedIn_iff.mpr ⟨c, rfl, hs⟩

theorem length_processes_le_after (k : Supervisor Script) (ms : List Move) :
    k.processes.length ≤ (k.after ms).processes.length :=
  after_induction (P := fun k' => k.processes.length ≤ k'.processes.length) (Nat.le_refl _)
    fun m _ k' hk => Nat.le_trans hk (k'.length_processes_le_move m)

theorem Backed.after (h : k.Backed) (ms : List Move) : (k.after ms).Backed :=
  after_induction h fun m _ _ hk => hk.move m

theorem Quenched.after (h : k.Quenched) (ms : List Move) : (k.after ms).Quenched :=
  after_induction h fun m _ _ hk => hk.move m

theorem evolves_after (ms : List Move) (hp : k.processes[i]? = some p) :
    ∃ q, (k.after ms).processes[i]? = some q ∧ p.Evolves q := by
  refine after_induction (P := fun k' => ∃ q, k'.processes[i]? = some q ∧ p.Evolves q)
    ⟨p, hp, .refl p⟩ ?_
  rintro m - k' ⟨q, hq, he⟩
  obtain ⟨r, hr, he', -⟩ := process_move m hq
  exact ⟨r, hr, he.trans he'⟩

theorem shutDown_after : (k.after ms).shutDown = true ↔
    k.shutDown = true ∨ ∃ n, .issue n .shutdown ∈ ms := by
  induction ms generalizing k with
  | nil => simp
  | cons m ms ih =>
    rw [after_cons, ih, shutDown_move, or_assoc, ← exists_or]
    simp only [List.mem_cons, eq_comm]

theorem shown_after (ms : List Move) (hb : k.Backed) (hu : k.UnfiredShown) (hs : k.ShownUnfired)
    (hg : ∀ call, .guard call ∈ ms → call.reads = true) (hi : ∀ n, .issue n .shutdown ∉ ms) :
    (k.after ms).UnfiredShown ∧ (k.after ms).ShownUnfired := by
  refine (after_induction (P := fun k => k.Backed ∧ k.UnfiredShown ∧ k.ShownUnfired)
    ⟨hb, hu, hs⟩ ?_).2
  rintro m hm k ⟨hb, hu, hs⟩
  refine ⟨hb.move m, hu.move ?_, hs.move hb ?_ ?_⟩
  · rintro call rfl
    exact GuardCall.displaces_of_reads (hg call hm)
  · rintro c rfl
    cases hg _ hm
  · rintro n rfl
    exact hi n hm

theorem fired_after_iff (hb : k.Backed) (hk : k.processes = [])
    (hp : (k.after ms).processes[i]? = some p) :
    p.fired = true ↔
      (k.after ms).shutDown = true ∨ k.Sometime ms fun k m => k.AsksToStop m i := by
  induction ms using List.reverseRecOn generalizing p with
  | nil => simp [hk] at hp
  | append_singleton ms m ih =>
    simp only [after_append, after_cons, after_nil] at hp ⊢
    rw [sometime_append_iff, sometime_cons_iff, or_iff_left not_sometime_nil, shutDown_move]
    rcases process_cases m hp with ⟨q, hq, -, hf⟩ | hi
    · rw [hf, ih hq, fires_iff (hb.after ms)]
      tauto
    · -- A new process was shown to nobody before, so nobody can have asked it to stop.
      have hnone {before : List Move} {m' : Move} (hle : (k.after before).processes.length ≤ i) :
          ¬ (k.after before).AsksToStop m' i := fun ha => by
        obtain ⟨c, hs⟩ := ha.shows
        obtain ⟨r, hr, -⟩ := hb.after before c i hs
        have := (List.getElem?_eq_some_iff.mp hr).1
        omega
      obtain ⟨-, hs, hf, -, -, n, s, rfl⟩ := process_of_move hi hp
      simp only [hf, hs, Bool.false_eq_true, reduceCtorEq, exists_false, false_or, or_false,
        false_iff, not_or]
      refine ⟨?_, hnone hi⟩
      rintro ⟨before, m', rest, rfl, ha⟩
      rw [after_append] at hi
      exact hnone (Nat.le_trans (length_processes_le_after _ _) hi) ha

end Supervisor

namespace Session

open Supervisor

theorem backed_fresh (g : Settings) : (fresh g).supervisor.Backed :=
  fun c i h => by simp [Shows, owner?, fresh] at h

theorem quenched_fresh (g : Settings) : (fresh g).supervisor.Quenched :=
  fun h => by simp [fresh] at h

theorem shutDown_after_moves_iff {g : Settings} {steps : List Step} :
    ((fresh g).supervisor.after ((fresh g).moves steps)).shutDown = true ↔
      .shutdown ∈ steps.flatMap Step.calls := by
  have hk : (fresh g).supervisor.shutDown ≠ true := by simp [fresh]
  rw [shutDown_after, issue_mem_moves_iff, or_iff_right hk]

/-- **Token ownership.** As long as nothing was shut down and guard calls only read, exactly
the processes on show have not been asked to stop, so there is at most one on each channel.
In any session a token has fired exactly if a shutdown was issued, or a restart, a stop or a
stop of everything took its handle out, or the handle was cancelled by hand while it was an
entry. A fired token stays so. -/
theorem tokens_follow_handles (g : Settings) (steps : List Step) :
    let k := ((fresh g).run steps).supervisor
    (.shutdown ∉ steps.flatMap Step.calls →
      (∀ call, Step.guard call ∈ steps → call.reads = true) →
      (∀ (i : Nat) (p : Process), k.processes[i]? = some p →
        (p.fired = false ↔ k.Shows p.channel i)) ∧ k.Exclusive) ∧
    (∀ (i : Nat) (p : Process), k.processes[i]? = some p →
      (p.fired = true ↔ .shutdown ∈ steps.flatMap Step.calls ∨
        (fresh g).supervisor.Sometime ((fresh g).moves steps) fun k m =>
          k.Dismisses m i ∨ k.Cancels m i)) ∧
    ∀ (later : List Step) (i : Nat) (p : Process), k.processes[i]? = some p → p.fired = true →
      ∃ q, ((fresh g).run (steps ++ later)).supervisor.processes[i]? = some q ∧ q.fired = true := by
  rw [run_supervisor]
  refine ⟨fun hs hg => ?_, fun i p hp => ?_, fun later i p hp hf => ?_⟩
  · obtain ⟨hu, hsu⟩ := shown_after ((fresh g).moves steps) (backed_fresh g)
      (by simp [UnfiredShown, fresh]) (by simp [ShownUnfired, fresh])
      (fun call hc => hg call (guard_mem_of_mem_moves hc))
      (fun n hn => hs (issue_mem_moves_iff.mp ⟨n, hn⟩))
    exact ⟨fun i p hp => ⟨hu i p hp, hsu _ i p hp⟩, hu.exclusive⟩
  · rw [fired_after_iff (backed_fresh g) rfl hp, shutDown_after_moves_iff]
    constructor
    · rintro (hs | ⟨before, m, rest, hms, hd | hc | ⟨⟨n, rfl⟩, -⟩⟩)
      · exact .inl hs
      · exact .inr ⟨before, m, rest, hms, .inl hd⟩
      · exact .inr ⟨before, m, rest, hms, .inr hc⟩
      · obtain ⟨call, hn, ha⟩ := (numbered_fresh g).moves steps (.serve n .shutdown) (by simp [hms])
        rw [Call.eq_shutdown_of_asks ha, List.nil_append] at hn
        exact .inl (List.mem_of_getElem? hn)
    · rintro (hs | ⟨before, m, rest, hms, hd | hc⟩)
      · exact .inl hs
      · exact .inr ⟨before, m, rest, hms, .inl hd⟩
      · exact .inr ⟨before, m, rest, hms, .inr (.inl hc)⟩
  · obtain ⟨q, hq, he⟩ := evolves_after ((run (fresh g) steps).moves later) hp
    rw [run_supervisor, moves_append, after_append]
    exact ⟨q, hq, he.fired hf⟩

/-- A restart that fails fires the old token and leaves the other channel's as it is. -/
theorem tokens_follow_handles_failed_restart :
    let spec : StreamSpec := { source := "tone", restart := true }
    let steps : List Step :=
      [.script [.succeed .numbered .untilTold, .succeed .numbered .untilTold,
          .fail { kind := .notFound }],
        .call (.start "audio" spec), .call (.start "video" spec), .hold, .guard (.get .audio),
        .release, .call (.start "audio" spec)]
    let k := ((fresh {}).run steps).supervisor
    k.processes.map (fun p => (p.channel, p.fired)) = [(.audio, true), (.video, false)] ∧
      k.Shows .video 1 ∧ k.Exclusive ∧
      ((fresh {}).supervisor.Sometime ((fresh {}).moves steps) fun k m =>
        k.Dismisses m 0 ∨ k.Cancels m 0) ∧
      ∃ q, ((fresh {}).run (steps ++ [.call .stopAll])).supervisor.processes[0]? = some q ∧
        q.fired = true := by
  intro spec steps k
  obtain ⟨hshown, hfired, hstays⟩ := tokens_follow_handles {} steps
  have hs : .shutdown ∉ steps.flatMap Step.calls := by decide
  have hg : ∀ call, Step.guard call ∈ steps → call.reads = true := by
    simp [steps, GuardCall.reads]
  have hk : k.processes.map (fun p => (p.channel, p.fired)) =
      [(.audio, true), (.video, false)] := by
    decide
  have hp : (k.processes[0]?.map (·.fired)) = some true := by decide
  have hq : (k.processes[1]?.map fun q => (q.channel, q.fired)) = some (.video, false) := by decide
  obtain ⟨p, hp, hpf⟩ := Option.map_eq_some_iff.mp hp
  obtain ⟨q, hq, hqf⟩ := Option.map_eq_some_iff.mp hq
  obtain ⟨hqc, hqf⟩ := Prod.mk.inj hqf
  obtain ⟨hshows, hone⟩ := hshown hs hg
  exact ⟨hk, hqc ▸ (hshows 1 q hq).mp hqf, hone, ((hfired 0 p hp).mp hpf).resolve_left hs,
    hstays [.call .stopAll] 0 p hp hpf⟩

end Session
end StreamSupervisor
