import StreamSupervisor.Proofs.Ending.Course
import StreamSupervisor.Proofs.Lock.Line
import StreamSupervisor.Proofs.Program.Laws

/-! # Between the calls of a session with programs

Each call is awaited before the next. So between them nobody has the registry, no request is in
line and no shutdown waits, since no launched program outlives its token. A call that is not a
shutdown then makes one step of what the supervisor answers, and nothing more.
-/

namespace StreamSupervisor

/-- A process that ends at the latest when its token fires. -/
def Process.Obedient (p : Process) : Prop := p.course ≠ .untilTold

namespace Process

variable {p : Process}

theorem Obedient.settle (h : p.Obedient) : (p.settle 0).Obedient := by
  rwa [Obedient, settle_zero_course]

theorem obedient_tell (p : Process) (collected : Collected) : (p.tell collected).Obedient := nofun

theorem Obedient.isAlive_settle (h : p.Obedient) (hf : p.fired = true) :
    (p.settle 0).isAlive = false := by
  refine settle_zero_isAlive ?_
  unfold canEnd
  cases hc : p.course with
  | untilTold => exact (h hc).elim
  | untilCancelled => exact hf
  | after delay collected => simp [hf]

end Process

variable {ρ : Type} [Runner ρ] [LawfulRunner ρ]

open LawfulLauncher (path)

namespace Supervisor

/-- A supervisor with its settings and its program, whose processes all obey. -/
structure Runs (g : Settings) (p : String) (k : Supervisor ρ) : Prop where
  settings : k.settings = g
  path : path k.launcher = p
  obedient : ∀ q ∈ k.processes, q.Obedient

variable {g : Settings} {p : String} {k k' : Supervisor ρ} {r : Request}

theorem Runs.withdrawn {cs : Channel → Bool} (h : Runs g p k) (hw : Withdrawn cs k k') :
    Runs g p k' where
  settings := hw.settings.trans h.settings
  path := by rw [hw.launcher, h.path]
  obedient q hq := by
    have hcourses : k'.processes.map (·.course) = k.processes.map (·.course) :=
      hw.map_processes fun _ => rfl
    have hmem := hcourses ▸ List.mem_map_of_mem hq
    obtain ⟨q', hq', hc⟩ := List.mem_map.mp hmem
    exact fun hcourse => h.obedient q' hq' (hc.trans hcourse)

theorem Runs.serve (h : Runs g p k) (r : Request) : Runs g p (k.serve r).state := by
  have hserve := k.served_serve r
  generalize (k.serve r).state = k' at hserve ⊢
  cases hserve with
  | withdrawn hw => exact h.withdrawn hw
  | failed hw =>
    have hk := h.withdrawn hw
    exact ⟨hk.settings, (LawfulLauncher.path_launch _ _).trans hk.path, hk.obedient⟩
  | @launched _ _ _ child hw _ _ hchild =>
    have hk := h.withdrawn hw
    -- no process that is launched waits to be told
    have hcourse : child.course = .untilCancelled := LawfulLauncher.course_of_ok hchild
    refine ⟨hk.settings, (LawfulLauncher.path_launch _ _).trans hk.path, fun q hq => ?_⟩
    rcases List.mem_append.mp hq with hq | hq
    · exact hk.obedient q hq
    · rw [List.mem_singleton.mp hq, Process.Obedient, hcourse]
      nofun

theorem Runs.fireAll (h : Runs g p k) : Runs g p k.fireAll :=
  ⟨h.settings, h.path, List.forall_mem_map.mpr h.obedient⟩

theorem Runs.settle (h : Runs g p k) : Runs g p (k.settle 0).state :=
  ⟨h.settings, h.path, List.forall_mem_map.mpr fun q hq => (h.obedient q hq).settle⟩

theorem path_foldl_kill (doomed : List (Process × Nat)) (h : ρ) :
    path (doomed.foldl (fun h q => Runner.kill h q.2) h) = path h := by
  induction doomed generalizing h with
  | nil => rfl
  | cons q doomed ih => exact (ih _).trans (LawfulRunner.path_kill h q.2)

theorem Runs.killFired (h : Runs g p k) : Runs g p k.killFired :=
  ⟨h.settings, (path_foldl_kill _ _).trans h.path, h.obedient⟩

theorem Runs.runPrograms (h : Runs g p k) (stop : (Nat → Option WaitStatus) → Bool) :
    Runs g p (k.runPrograms stop) := by
  refine ⟨h.settings, (LawfulRunner.path_run _ _).trans h.killFired.path,
    List.forall_mem_map.mpr fun q hq => ?_⟩
  have hq : q.1.Obedient := h.obedient q.1 (List.of_mem_zip hq).1
  split
  · split
    · exact Process.obedient_tell _ _
    · exact hq
  · exact hq

theorem Runs.pending_settle (h : Runs g p k) (hf : ∀ q ∈ k.processes, q.fired = true) :
    (k.settle 0).state.pending = 0 := by
  refine List.countP_eq_zero.mpr (List.forall_mem_map.mpr fun q hq => ?_)
  rw [(h.obedient q hq).isAlive_settle (hf q hq)]
  exact Bool.false_ne_true

theorem fired_drain {ℓ : Type} {k : Supervisor ℓ} (hf : ∀ q ∈ k.processes, q.fired = true) :
    ∀ q ∈ k.drain.state.processes, q.fired = true := by
  intro q hq
  obtain ⟨i, hi, rfl⟩ := List.mem_iff_getElem.mp hq
  have hw := k.withdrawn_stopAll.processes i
  change k.drain.state.processes[i]? = _ at hw
  rw [List.getElem?_eq_getElem hi] at hw
  obtain ⟨q', hq', he⟩ := Option.map_eq_some_iff.mp hw.symm
  have hq' := hf q' (List.mem_of_getElem? hq')
  rw [← he]
  split
  · rfl
  · exact hq'

theorem answer?_of_mem_serve {ℓ : Type} [Launcher ℓ] {k : Supervisor ℓ} {r : Request}
    {e : Happening} (h : e ∈ (k.serve r).trace) : e.answer? = none := by
  rcases mem_serve_trace h with ⟨_, rfl⟩ | ⟨_, _, _, -, -, rfl⟩ <;> rfl

theorem answer_serve {ℓ : Type} [Launcher ℓ] (k : Supervisor ℓ) {r : Request}
    (hr : r ≠ .shutdown) : ∃ a, (k.serve r).answer = some a := by
  cases r with
  | shutdown => exact (hr rfl).elim
  | _ => exact ⟨_, rfl⟩

end Supervisor

namespace Session

open Supervisor

/-- A session with programs between two calls. -/
structure Between (g : Settings) (p : String) (x : Session ρ) : Prop where
  supervisor : Runs g p x.supervisor
  held : x.held = false
  queue : x.queue = []
  draining : x.draining = []

def programRun (x : Session ρ) (steps : List ProgramStep) : Session ρ :=
  steps.foldl (fun x s => (x.programStep s).state) x

variable {g : Settings} {p : String} {x : Session ρ} {call : Call} {r : Request} {a : Answer}

theorem between_freshOn (g : Settings) (l : ρ) : (freshOn g l).Between g (path l) :=
  ⟨⟨rfl, rfl, List.forall_mem_nil _⟩, rfl, rfl, rfl⟩

theorem between_settle (h : Runs g p x.supervisor) (hheld : x.held = false) (hqueue : x.queue = [])
    (hdrain : x.draining = [] ∨ (x.supervisor.settle 0).state.pending = 0) :
    (x.settle 0).1.Between g p := by
  simp only [Session.settle]
  split
  · exact ⟨h.settle, hheld, hqueue, rfl⟩
  · exact ⟨h.settle, hheld, hqueue, hdrain.resolve_right ‹_›⟩

theorem Between.programStep_of_answered (h : x.Between g p) (hcall : call ≠ .shutdown)
    (ha : x.supervisor.check call = .answered a) :
    x.programStep (.call call) =
      ⟨{ x with issued := x.issued + 1 }, [.answered x.issued a], a⟩ := by
  simp [programStep, issue_of_answered hcall ha, h.draining, Happening.answer?]

theorem Between.programStep_of_queued (h : x.Between g p) (hcall : call ≠ .shutdown)
    (hr : x.supervisor.check call = .queued r) (ha : (x.supervisor.serve r).answer = some a) :
    x.programStep (.call call) =
      ⟨{ x with supervisor := (x.supervisor.serve r).state, issued := x.issued + 1 },
        (x.supervisor.serve r).trace ++ [.answered x.issued a], a⟩ := by
  have hissue : x.issue call =
      ({ x with supervisor := (x.supervisor.serve r).state, issued := x.issued + 1 },
        (x.supervisor.serve r).trace ++ [.answered x.issued a]) := by
    simp [issue, announce_of_ne_shutdown hcall, hr, h.held, perform, ha]
  have hquiet : (x.supervisor.serve r).trace.findSome? (·.answer?) = none :=
    List.findSome?_eq_none_iff.mpr fun e he => answer?_of_mem_serve he
  have hanswer : (Happening.answered x.issued a).answer? = some (x.issued, a) := rfl
  simp [programStep, hissue, h.draining, hquiet, hanswer]

theorem Between.programStep_shutdown (h : x.Between g p) :
    (x.programStep (.call .shutdown)).state.Between g p := by
  have hk : Runs g p (x.supervisor.fireAll.serve .shutdown).state :=
    h.supervisor.fireAll.serve .shutdown
  have hfired : ∀ q ∈ (x.supervisor.fireAll.serve .shutdown).state.killFired.processes,
      q.fired = true :=
    fired_drain (List.forall_mem_map.mpr fun _ _ => rfl)
  -- every token fires before the shutdown is served, so nothing is alive once things settle
  have hstep : (x.programStep (.call .shutdown)).state =
      (Session.settle 0 { x with
        supervisor := (x.supervisor.fireAll.serve .shutdown).state.killFired
        draining := [x.issued], issued := x.issued + 1 }).1 := by
    simp [programStep, issue, announce, check, h.held, h.draining, perform, serve]
  rw [hstep]
  exact between_settle hk.killFired h.held h.queue (.inr (hk.killFired.pending_settle hfired))

theorem Between.waitUntil (h : x.Between g p) (stop : (Nat → Option WaitStatus) → Bool) :
    (x.waitUntil stop).state.Between g p :=
  between_settle (h.supervisor.runPrograms stop) h.held h.queue (.inl h.draining)

theorem Between.programStep (h : x.Between g p) (s : ProgramStep) :
    (x.programStep s).state.Between g p := by
  cases s with
  | call call =>
    by_cases hcall : call = .shutdown
    · exact hcall ▸ h.programStep_shutdown
    · rcases call.check_cases x.supervisor with ⟨-, a, ha⟩ | ⟨r, hr, hq⟩
      · rw [h.programStep_of_answered hcall ha]
        exact ⟨h.supervisor, h.held, h.queue, h.draining⟩
      · have hne : r ≠ .shutdown := by
          rintro rfl
          exact hcall (Call.eq_shutdown_of_asks (Call.asks_iff.mpr hr))
        obtain ⟨a, ha⟩ := x.supervisor.answer_serve hne
        rw [h.programStep_of_queued hcall hq ha]
        exact ⟨h.supervisor.serve r, h.held, h.queue, h.draining⟩
  | waitExit c =>
    simp only [Session.programStep]
    split
    · exact h
    · split <;> exact h.waitUntil _
  | waitPending count =>
    simp only [Session.programStep]
    split
    · exact h
    · exact h.waitUntil _

theorem between_programRun (g : Settings) (l : ρ) (steps : List ProgramStep) :
    ((freshOn g l).programRun steps).Between g (path l) := by
  suffices h : ∀ x : Session ρ, x.Between g (path l) → (x.programRun steps).Between g (path l) from
    h _ (between_freshOn g l)
  induction steps with
  | nil => exact fun x h => h
  | cons s rest ih => exact fun x h => ih _ (h.programStep s)

end Session
end StreamSupervisor
