import StreamSupervisor.Program.Step
import StreamSupervisor.Proofs.Supervisor.Service

/-! # Laws of launchers

What every launcher of a program keeps to, whatever the program and the machine that it runs on.
From these laws alone it follows what becomes of a start that the launcher refuses.
-/

namespace StreamSupervisor

def ZeroFree (s : String) : Prop := '\x00' ∉ s.toList

instance (s : String) : Decidable (ZeroFree s) :=
  inferInstanceAs (Decidable ('\x00' ∉ s.toList))

/-- A launcher that has one program executed, and the facts of every launch. -/
class LawfulLauncher (ℓ : Type) [Launcher ℓ] where
  path : ℓ → String
  path_launch (l : ℓ) (r : LaunchRequest) : path (Launcher.launch l r).launcher = path l
  /-- The system takes no text with a zero character, and has this fault for nothing else. -/
  nulByte_iff (l : ℓ) (r : LaunchRequest) :
    (Launcher.launch l r).child = .error .nulByte ↔ ∃ a ∈ path l :: r.arguments, ¬ ZeroFree a
  launcher_of_error {l : ℓ} {r : LaunchRequest} {fault : Fault} :
    (Launcher.launch l r).child = .error fault → (Launcher.launch l r).launcher = l
  course_of_ok {l : ℓ} {r : LaunchRequest} {child : Child} :
    (Launcher.launch l r).child = .ok child → child.course = .untilCancelled

/-- Whatever is done with its processes, a runner goes on with the program that it has. -/
class LawfulRunner (ρ : Type) [Runner ρ] extends LawfulLauncher ρ where
  path_kill (h : ρ) (pid : Nat) : path (Runner.kill h pid) = path h
  path_run (h : ρ) (stop : (Nat → Option WaitStatus) → Bool) : path (Runner.run h stop) = path h

namespace Supervisor

variable {ℓ : Type} [Launcher ℓ] {k : Supervisor ℓ} {c : Channel} {s : StreamSpec} {fault : Fault}

theorem asked_vacate (k : Supervisor ℓ) (c : Channel) (s : StreamSpec) :
    (k.vacate c).asked c s = k.asked c s := by
  have hw := k.withdrawn_vacate c
  rw [asked, asked, hw.launcher, hw.settings, hw.length_processes]

theorem start_eq_launchFailed_iff :
    (k.start c s).answer = .error (.launchFailed c fault) ↔
      k.launches (.start c s) = true ∧ (k.asked c s).child = .error fault := by
  cases hl : k.launches (.start c s) with
  | true =>
    obtain ⟨_, hs⟩ := start_of_launches hl
    rw [hs, ← asked_vacate]
    cases ha : ((k.vacate c).asked c s).child with
    | error fault' => simp [launch_of_error ha]
    | ok child => simp [launch_of_ok ha]
  | false =>
    simp only [Bool.false_eq_true, false_and, iff_false]
    rcases start_cases_of_not_launches hl with hs | ⟨_, -, hs⟩ <;> rw [hs] <;> nofun

theorem start_of_ok {child : Child} (hl : k.launches (.start c s) = true)
    (ha : (k.asked c s).child = .ok child) :
    (k.start c s).answer = .ok () ∧
      (k.start c s).state = Supervisor.install
        { k.vacate c with launcher := (k.asked c s).launcher } c s child := by
  obtain ⟨_, hs⟩ := start_of_launches hl
  rw [← asked_vacate] at ha ⊢
  rw [hs, launch_of_ok ha]
  exact ⟨rfl, rfl⟩

variable [LawfulLauncher ℓ]

theorem start_state_of_launchFailed (h : (k.start c s).answer = .error (.launchFailed c fault)) :
    (k.start c s).state = k.vacate c := by
  obtain ⟨hl, ha⟩ := start_eq_launchFailed_iff.mp h
  obtain ⟨_, hs⟩ := start_of_launches hl
  rw [← asked_vacate] at ha
  have hlauncher : ((k.vacate c).asked c s).launcher = (k.vacate c).launcher :=
    LawfulLauncher.launcher_of_error ha
  rw [hs, launch_of_error ha]
  simp only [hlauncher]

end Supervisor

end StreamSupervisor
