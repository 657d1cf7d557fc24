import StreamSupervisor.Proofs.Program.Between
import StreamSupervisor.Proofs.Program.Host

/-! # Zero characters

No program can be handed an argument with a zero character in it. The check of a spec does not
look for any, so such a spec is found out only by the launcher, when the stream that it was to
replace has been dismissed already.
-/

namespace StreamSupervisor

open LawfulLauncher (path)

theorem zeroFree_of_blank {s : String} (h : Blank s) : ZeroFree s := fun hz =>
  absurd (h _ hz) (by decide)

theorem zeroFree_toString (n : Nat) : ZeroFree (toString n) := by
  intro hz
  rw [Nat.toString_eq_repr, Nat.repr_eq_ofList_toDigits, String.toList_ofList] at hz
  exact absurd (Nat.isDigit_of_mem_toDigits (by decide) (by decide) hz) (by decide)

/-! ### What is launched -/

/-- The texts that a spec brings into an argument list. -/
def StreamSpec.texts (s : StreamSpec) : List String := s.source :: s.sink.toList

/-- The texts that the settings bring into argument lists. -/
def Settings.texts (g : Settings) : List String := [g.audioSink, g.videoDevice, g.pixelFormat]

theorem StreamSpec.validate_eq_ok_iff_texts (s : StreamSpec) :
    s.validate = .ok () ↔ ∀ t ∈ s.texts, ZeroFree t → ¬ Blank t := by
  have hblank (t : String) : ¬ Blank t ↔ (ZeroFree t → ¬ Blank t) :=
    ⟨fun h _ => h, fun h hb => h (zeroFree_of_blank hb) hb⟩
  simp only [s.validate_eq_ok_iff, texts, List.forall_mem_cons, Option.mem_toList, ← hblank]

section Arguments

variable {g : Settings} {c : Channel}

theorem zeroFree_formatOptions (hg : ∀ t ∈ g.texts, ZeroFree t) :
    ∀ a ∈ formatOptions g c, ZeroFree a := by
  simp only [Settings.texts, List.forall_mem_cons] at hg
  cases c with
  | audio =>
    simp only [formatOptions, List.forall_mem_cons]
    exact ⟨by decide, by decide, by decide, zeroFree_toString _, by decide,
      zeroFree_toString _, nofun⟩
  | video =>
    simp only [formatOptions, List.forall_mem_cons]
    exact ⟨by decide, by decide, by decide, hg.2.2.1, by decide, by decide, nofun⟩

theorem zeroFree_outputSink_iff (hg : ∀ t ∈ g.texts, ZeroFree t) (s : StreamSpec) :
    ZeroFree (outputSink g c s) ↔ ∀ sink ∈ s.sink, ZeroFree sink := by
  simp only [Settings.texts, List.forall_mem_cons] at hg
  cases hs : s.sink with
  | some sink => simp [outputSink, hs]
  | none => cases c <;> simp [outputSink, hs, hg]

theorem zeroFree_arguments_iff (hg : ∀ t ∈ g.texts, ZeroFree t) (c : Channel) (s : StreamSpec) :
    (∀ a ∈ arguments g c s, ZeroFree a) ↔ ∀ t ∈ s.texts, ZeroFree t := by
  have hloop : ∀ a ∈ loopOptions s.looped, ZeroFree a := by
    cases s.looped <;> decide
  have hparts : (∀ a ∈ arguments g c s, ZeroFree a) ↔
      ZeroFree s.source ∧ ZeroFree (outputSink g c s) := by
    simp only [arguments, List.forall_mem_append, List.forall_mem_cons, List.not_mem_nil,
      false_imp_iff, implies_true, and_true]
    exact ⟨fun h => ⟨h.1.1.2.2, h.2⟩,
      fun h => ⟨⟨⟨⟨by decide, hloop⟩, by decide, h.1⟩, zeroFree_formatOptions hg⟩, h.2⟩⟩
  rw [hparts, zeroFree_outputSink_iff hg]
  simp [StreamSpec.texts]

end Arguments

namespace Supervisor

variable {ℓ : Type} [Launcher ℓ] [LawfulLauncher ℓ] {g : Settings} {k : Supervisor ℓ} {c : Channel}
  {s : StreamSpec}

theorem asked_eq_nulByte_iff (hk : k.settings = g) (hg : ∀ t ∈ g.texts, ZeroFree t)
    (hl : ZeroFree (path k.launcher)) :
    (k.asked c s).child = .error .nulByte ↔ ¬ ∀ t ∈ s.texts, ZeroFree t := by
  rw [asked, LawfulLauncher.nulByte_iff, ← zeroFree_arguments_iff hg c s, hk]
  simp [hl]

theorem start_eq_nulByte_iff (hk : k.settings = g) (hg : ∀ t ∈ g.texts, ZeroFree t)
    (hl : ZeroFree (path k.launcher)) :
    (k.start c s).answer = .error (.launchFailed c .nulByte) ↔
      k.launches (.start c s) = true ∧ ¬ ∀ text ∈ s.texts, ZeroFree text := by
  rw [start_eq_launchFailed_iff, asked_eq_nulByte_iff hk hg hl]

end Supervisor

namespace Session

open Supervisor

section

variable {ρ : Type} [Runner ρ] [LawfulRunner ρ] {g : Settings} {p : String} {x : Session ρ}
  {key : String} {c : Channel} {s : StreamSpec} {fault : Fault}

theorem Between.programStep_of_valid (h : x.Between g p) (hkey : Channel.ofKey? key = some c)
    (hs : s.validate = .ok ()) :
    let t := x.programStep (.call (.start key s))
    t.answer = .ofResult (x.supervisor.start c s).answer ∧
      t.state =
        { x with supervisor := (x.supervisor.start c s).state, issued := x.issued + 1 } := by
  intro t
  have hcheck := Call.check_start hkey s x.supervisor
  rw [hs] at hcheck
  have ht : t = _ := h.programStep_of_queued nofun hcheck rfl
  rw [ht]
  exact ⟨rfl, rfl⟩

theorem Between.programStep_start (h : x.Between g p) (hkey : Channel.ofKey? key = some c) :
    (x.programStep (.call (.start key s))).answer = .refused (.launchFailed c fault) ↔
      s.validate = .ok () ∧ (x.supervisor.start c s).answer = .error (.launchFailed c fault) := by
  cases hs : s.validate with
  | error e =>
    have hcheck := Call.check_start hkey s x.supervisor
    rw [hs] at hcheck
    obtain ⟨complaint, -, rfl⟩ := StreamSpec.validate_eq_error_iff.mp hs
    have hcall : Call.start key s ≠ .shutdown := nofun
    rw [h.programStep_of_answered hcall hcheck]
    exact ⟨nofun, nofun⟩
  | ok =>
    rw [(h.programStep_of_valid hkey hs).1]
    cases (x.supervisor.start c s).answer <;> simp [Answer.ofResult]

end

/-- **Zero characters are found out at the launch.** The check of a spec lets every text with a
zero character pass. With settings and a program that have none, an argument list has one just if
the spec has one, and just then the launcher refuses the arguments for its sake, whatever the
supervisor shows. So the start of a valid spec is refused by the launcher, and not by the check,
just if the spec has a zero character and nothing else keeps the launch from being tried. The
channel is empty then, and the token of what it showed has fired. So it is with every launcher
that keeps the laws, on whatever machine. -/
theorem zero_characters_are_found_at_launch {ρ : Type} [Runner ρ] [LawfulRunner ρ] (g : Settings)
    (l : ρ) (hg : ∀ t ∈ g.texts, ZeroFree t) (hl : ZeroFree (path l)) (c : Channel)
    (s : StreamSpec) :
    (s.validate = .ok () ↔ ∀ text ∈ s.texts, ZeroFree text → ¬ Blank text) ∧
    ((∀ a ∈ arguments g c s, ZeroFree a) ↔ ∀ text ∈ s.texts, ZeroFree text) ∧
    (∀ k : Supervisor ρ, k.settings = g → path k.launcher = path l →
      ((k.asked c s).child = .error .nulByte ↔ ¬ ∀ text ∈ s.texts, ZeroFree text) ∧
      ((k.start c s).answer = .error (.launchFailed c .nulByte) ↔
        k.launches (.start c s) = true ∧ ¬ ∀ text ∈ s.texts, ZeroFree text) ∧
      ((k.start c s).answer = .error (.launchFailed c .nulByte) →
        (k.start c s).state = k.vacate c)) ∧
    ∀ steps key, Channel.ofKey? key = some c →
      let x := (freshOn g l).programRun steps
      let t := x.programStep (.call (.start key s))
      (t.answer = .refused (.launchFailed c .nulByte) ↔ s.validate = .ok () ∧
        x.supervisor.launches (.start c s) = true ∧ ¬ ∀ text ∈ s.texts, ZeroFree text) ∧
      (t.answer = .refused (.launchFailed c .nulByte) →
        t.state = { x with supervisor := x.supervisor.vacate c, issued := x.issued + 1 }) := by
  refine ⟨s.validate_eq_ok_iff_texts, zeroFree_arguments_iff hg c s, fun k hk hpath =>
    ⟨asked_eq_nulByte_iff hk hg (hpath ▸ hl), start_eq_nulByte_iff hk hg (hpath ▸ hl),
      start_state_of_launchFailed⟩, fun steps key hkey => ?_⟩
  intro x t
  have hx : x.Between g (path l) := between_programRun g l steps
  have hstart : (x.supervisor.start c s).answer = .error (.launchFailed c .nulByte) ↔ _ :=
    start_eq_nulByte_iff hx.supervisor.settings hg (hx.supervisor.path ▸ hl)
  refine ⟨(hx.programStep_start hkey).trans (and_congr_right' hstart), fun h => ?_⟩
  obtain ⟨hvalid, hlaunch⟩ := (hx.programStep_start hkey).mp h
  rw [(hx.programStep_of_valid hkey hvalid).2, start_state_of_launchFailed hlaunch]

/-- A session in which a stream was started, on a host that has the program. -/
def playing : Session Host :=
  (freshOn { program := "/p" } Host.bare).programRun [.call (.start "audio" { source := "song" })]

theorem between_playing : playing.Between { program := "/p" } (path Host.bare) :=
  between_programRun { program := "/p" } Host.bare _

theorem exists_playing_eq : ∃ l, playing.supervisor =
    ({ settings := { program := "/p" }, launcher := l } : Supervisor Host).install .audio
      { source := "song" } ⟨some 0, .untilCancelled⟩ := by
  let g : Settings := { program := "/p" }
  let song : StreamSpec := { source := "song" }
  let k : Supervisor Host := { settings := g, launcher := Host.bare }
  have hx : (freshOn g Host.bare).Between g Host.bare.program.path := between_freshOn g Host.bare
  have hshort : Machine.isTooLong
      ("/p" :: ("/p" :: (arguments g .audio song).map Machine.bytes) ++ Host.environment) =
        false := by cbv
  have hresolve := Host.resolve_bare hshort
  have hzero : ∀ a ∈ "/p" :: arguments g .audio song, ZeroFree a := by decide
  rw [← Host.path_bare] at hresolve hzero
  have hasked : (k.asked .audio song).child = .ok ⟨some 0, .untilCancelled⟩ :=
    Host.launch_of_resolve hresolve hzero
  have hvalid : StreamSpec.validate { source := "song" } = .ok () := rfl
  obtain ⟨-, hstate⟩ :=
    hx.programStep_of_valid (by decide : Channel.ofKey? "audio" = some .audio) hvalid
  obtain ⟨-, hstart⟩ := start_of_ok (show k.launches (.start .audio song) = true from rfl) hasked
  have hplaying : playing =
      ((freshOn g Host.bare).programStep (.call (.start "audio" song))).state := rfl
  refine ⟨(k.asked .audio song).launcher, ?_⟩
  rw [hplaying, hstate]
  exact hstart

theorem playing_vacate : playing.supervisor.isRunning .audio = true ∧
    (playing.supervisor.vacate .audio).isRunning .audio = false ∧
    (playing.supervisor.vacate .audio).processes.map (·.fired) = [true] := by
  obtain ⟨l, h⟩ := exists_playing_eq
  rw [h]
  exact ⟨rfl, rfl, rfl⟩

theorem playing_launches {c : Channel} {s : StreamSpec} (hs : s.restart = true) :
    playing.supervisor.launches (.start c s) = true := by
  obtain ⟨l, h⟩ := exists_playing_eq
  rw [h, launches, hs]
  rfl

/-- A restart over a running stream, of which nothing but its source is wrong. -/
theorem zero_characters_are_found_at_launch_restart :
    let s : StreamSpec := { source := "clip\x00.mp4", restart := true }
    let t := playing.programStep (.call (.start "audio" s))
    playing.supervisor.isRunning .audio = true ∧ s.validate = .ok () ∧
      t.answer = .refused (.launchFailed .audio .nulByte) ∧
      t.state = { playing with
        supervisor := playing.supervisor.vacate .audio, issued := playing.issued + 1 } ∧
      t.state.supervisor.isRunning .audio = false ∧
      t.state.supervisor.processes.map (·.fired) = [true] := by
  intro s t
  have hpath : ZeroFree (path Host.bare) := Host.bare.program.zeroFree_path_iff.mpr (by decide)
  obtain ⟨hvalid, -, -, hsession⟩ := zero_characters_are_found_at_launch { program := "/p" }
    Host.bare (by decide) hpath .audio s
  obtain ⟨hanswer, hstate⟩ := hsession [.call (.start "audio" { source := "song" })] "audio"
    (by decide)
  have hs : s.validate = .ok () := hvalid.mpr (by decide)
  have ht : t.answer = .refused (.launchFailed .audio .nulByte) :=
    hanswer.mpr ⟨hs, playing_launches rfl, by decide⟩
  have hvacant : t.state.supervisor = playing.supervisor.vacate .audio :=
    congrArg Session.supervisor (hstate ht)
  obtain ⟨hrunning, hfree, hfired⟩ := playing_vacate
  exact ⟨hrunning, hs, ht, hstate ht, hvacant ▸ hfree, hvacant ▸ hfired⟩

/-- A valid spec that no launcher can spawn. While a stream runs that was started, the start of that
spec ends the stream, and is then refused. -/
theorem zero_character_ends_running_stream :
    let s : StreamSpec := { source := "clip\x00.mp4", restart := true }
    let k := playing.supervisor
    (∀ t ∈ path k.launcher :: k.settings.program :: k.settings.texts, ZeroFree t) ∧
      s.validate = .ok () ∧ "clip\x00.mp4" ∈ arguments k.settings .audio s ∧
      (k.asked .audio s).child = .error .nulByte ∧
      (k.start .audio s).answer = .error (.launchFailed .audio .nulByte) ∧
      k.isRunning .audio = true ∧ (k.start .audio s).state.isRunning .audio = false ∧
      (k.start .audio s).state.processes.map (·.fired) = [true] := by
  intro s k
  have hk : k.settings = { program := "/p" } := between_playing.supervisor.settings
  have hpath : path k.launcher = "/p" := between_playing.supervisor.path.trans Host.path_bare
  have hasked : (k.asked .audio s).child = .error .nulByte :=
    (asked_eq_nulByte_iff hk (by decide) (by rw [hpath]; decide)).mpr (by decide)
  have hanswer : (k.start .audio s).answer = .error (.launchFailed .audio .nulByte) :=
    start_eq_launchFailed_iff.mpr ⟨playing_launches rfl, hasked⟩
  have hvacant : (k.start .audio s).state = k.vacate .audio := start_state_of_launchFailed hanswer
  obtain ⟨hrunning, hfree, hfired⟩ := playing_vacate
  exact ⟨by rw [hk, hpath]; decide, s.validate_eq_ok_iff_texts.mpr (by decide),
    by rw [hk]; decide, hasked, hanswer, hrunning, hvacant ▸ hfree, hvacant ▸ hfired⟩

end Session

end StreamSupervisor
