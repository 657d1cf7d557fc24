import Mathlib.Data.List.Induction
import StreamSupervisor.Proofs.Lock.Turn

/-! # Every launch has a source and a sink

A spec without a source to speak of, or with a sink that is blank, is complained of before its
start gets in line for the registry. So if the settings have sinks that are not blank, whatever is
launched plays from a source and to a sink.
-/

namespace StreamSupervisor

/-- What stands behind the input option of an argument list. -/
def input? (args : List String) : Option String := args[args.idxOf "-i" + 1]?

@[simp] theorem input?_arguments (g : Settings) (c : Channel) (s : StreamSpec) :
    input? (arguments g c s) = some s.source := by
  cases hs : s.looped <;> simp [input?, arguments, loopOptions, hs]

namespace StreamSpec

def Choice.sink? : Choice → Option String
  | sink name => some name
  | _ => none

def lastSink? (choices : List Choice) : Option String := choices.reverse.findSome? Choice.sink?

theorem choose_sink (s : StreamSpec) (choice : Choice) :
    (s.choose choice).sink = choice.sink?.or s.sink := by
  cases choice <;> rfl

theorem build_sink (source : String) (choices : List Choice) :
    (build source choices).sink = lastSink? choices := by
  induction choices using List.reverseRecOn with
  | nil => rfl
  | append_singleton choices choice ih =>
    rw [build, List.foldl_append, List.foldl_cons, List.foldl_nil, choose_sink]
    rw [build] at ih
    rw [ih, lastSink?, lastSink?, List.reverse_append, List.reverse_singleton,
      List.singleton_append, List.findSome?_cons]
    cases choice.sink? <;> rfl

theorem complaint?_eq_some_iff {s : StreamSpec} {complaint : String} :
    s.complaint? = some complaint ↔
      Blank s.source ∧ complaint = sourceRequired ∨
        ¬ Blank s.source ∧ ∃ sink, s.sink = some sink ∧ Blank sink ∧ complaint = sinkRequired := by
  have hsink : s.sink.any isBlank = true ↔ ∃ sink, s.sink = some sink ∧ Blank sink := by
    simp only [Option.any_eq_true, isBlank_iff]
  rw [complaint?]
  by_cases hsource : Blank s.source
  · rw [if_pos ((isBlank_iff _).mpr hsource)]
    simp only [hsource, Option.some.injEq, true_and, not_true_eq_false, false_and, or_false,
      eq_comm]
  · rw [if_neg (mt (isBlank_iff _).mp hsource)]
    simp only [hsource, false_and, false_or, not_false_eq_true, true_and,
      Option.ite_none_right_eq_some, hsink, Option.some.injEq, eq_comm (a := sinkRequired)]
    constructor
    · rintro ⟨⟨sink, hs, hb⟩, hc⟩
      exact ⟨sink, hs, hb, hc⟩
    · rintro ⟨sink, hs, hb, hc⟩
      exact ⟨⟨sink, hs, hb⟩, hc⟩

theorem validate_build_eq_error_iff {source : String} {choices : List Choice} {e : StreamError} :
    (build source choices).validate = .error e ↔
      Blank source ∧ e = .invalidSpec sourceRequired ∨
        ¬ Blank source ∧ ∃ sink, lastSink? choices = some sink ∧ Blank sink ∧
          e = .invalidSpec sinkRequired := by
  simp only [validate_eq_error_iff, complaint?_eq_some_iff, build_source, build_sink]
  constructor
  · rintro ⟨complaint, ⟨hb, rfl⟩ | ⟨hn, sink, hs, hb, rfl⟩, rfl⟩
    · exact .inl ⟨hb, rfl⟩
    · exact .inr ⟨hn, sink, hs, hb, rfl⟩
  · rintro (⟨hb, rfl⟩ | ⟨hn, sink, hs, hb, rfl⟩)
    · exact ⟨_, .inl ⟨hb, rfl⟩, rfl⟩
    · exact ⟨_, .inr ⟨hn, sink, hs, hb, rfl⟩, rfl⟩

end StreamSpec

theorem not_blank_outputSink {g : Settings} {c : Channel} {s : StreamSpec}
    (haudio : ¬ Blank g.audioSink) (hvideo : ¬ Blank g.videoDevice) (hs : s.complaint? = none) :
    ¬ Blank (outputSink g c s) := by
  have hsink := (s.complaint?_eq_none_iff.mp hs).2
  unfold outputSink
  split
  · exact hsink _ ‹_›
  · exact haudio
  · exact hvideo

theorem Call.request?_eq_start_iff {call : Call} {c : Channel} {s : StreamSpec} :
    call.request? = some (.start c s) ↔
      ∃ key, call = .start key s ∧ Channel.ofKey? key = some c ∧ s.complaint? = none := by
  cases call with
  | start key spec =>
    simp only [request?, Option.bind_eq_some_iff, Option.ite_none_right_eq_some,
      Option.some.injEq, Request.start.injEq, Call.start.injEq]
    constructor
    · rintro ⟨c, hkey, hs, rfl, rfl⟩
      exact ⟨key, ⟨rfl, rfl⟩, hkey, hs⟩
    · rintro ⟨key, ⟨rfl, rfl⟩, hkey, hs⟩
      exact ⟨c, hkey, hs, rfl, rfl⟩
  | _ => simp [request?]

namespace Session

open Supervisor

theorem spec_of_launched {g : Settings} {steps : List Step} {record : LaunchRecord}
    (h : .launched record ∈ (fresh g).trace steps) :
    ∃ c s, s.complaint? = none ∧ record.arguments = arguments g c s := by
  obtain ⟨before, m, rest, hms, hrecord⟩ :=
    Supervisor.mem_trace_iff.mp ((mem_trace_iff rfl).mp h)
  obtain ⟨n, c, s, rfl, -, hrecord⟩ := mem_move_launched hrecord
  obtain ⟨call, -, hasks⟩ : (Move.serve n (.start c s)).Numbered _ :=
    (numbered_fresh g).moves steps _ (by simp [hms])
  obtain ⟨_, -, -, hs⟩ := Call.request?_eq_start_iff.mp (Call.asks_iff.mp hasks)
  refine ⟨c, s, hs, ?_⟩
  rw [hrecord, launchRecord, settings_after]
  rfl

theorem check_of_invalidSpec {key : String} {c : Channel} {s : StreamSpec} {e : StreamError}
    (hkey : Channel.ofKey? key = some c) (he : s.validate = .error e) (k : Supervisor Script) :
    k.check (.start key s) = .answered (.refused e) := by
  rw [Call.check_start hkey, he]

/-- **Every launch has a source and a sink.** If the sinks of the settings are not blank, then
whatever is launched in a session has behind its input option a source that is not blank, and for
its last argument a sink that is not. A spec, however it was built, is refused just if its source
is blank, or else if the sink chosen last is. To start it with the key of a channel is then to be
told so at once and to change nothing, whoever has the registry, and after a shutdown as well. -/
theorem launches_have_source_and_sink (g : Settings) (steps : List Step) :
    let x := (fresh g).run steps
    (¬ Blank g.audioSink → ¬ Blank g.videoDevice →
      ∀ record, .launched record ∈ (fresh g).trace steps →
        ∃ source sink, input? record.arguments = some source ∧
          record.arguments.getLast? = some sink ∧ ¬ Blank source ∧ ¬ Blank sink) ∧
    (∀ source choices e, (StreamSpec.build source choices).validate = .error e ↔
      Blank source ∧ e = .invalidSpec StreamSpec.sourceRequired ∨
        ¬ Blank source ∧ ∃ sink, StreamSpec.lastSink? choices = some sink ∧ Blank sink ∧
          e = .invalidSpec StreamSpec.sinkRequired) ∧
    ∀ key c source choices e, Channel.ofKey? key = some c →
      (StreamSpec.build source choices).validate = .error e →
      let call : Call := .start key (StreamSpec.build source choices)
      (∀ y : Session Script, y.issue call =
        ({ y with issued := y.issued + 1 }, [.answered y.issued (.refused e)])) ∧
      x.step (.call call) =
        ⟨{ x with issued := x.issued + 1 }, [.answered x.issued (.refused e)], .none⟩ := by
  intro x
  refine ⟨fun haudio hvideo record hrecord => ?_,
    fun source choices e => StreamSpec.validate_build_eq_error_iff,
    fun key c source choices e hkey he =>
      ⟨fun y => issue_of_answered nofun (check_of_invalidSpec hkey he _),
        step_of_answered g steps nofun (check_of_invalidSpec hkey he _)⟩⟩
  obtain ⟨c, s, hs, hargs⟩ := spec_of_launched hrecord
  refine ⟨s.source, outputSink g c s, by rw [hargs, input?_arguments],
    by rw [hargs, getLast?_arguments], (s.complaint?_eq_none_iff.mp hs).1,
    not_blank_outputSink haudio hvideo hs⟩

/-- The last sink is blank without being empty. The start comes after a shutdown, while the
registry is held. -/
theorem launches_have_source_and_sink_held :
    let steps : List Step := [.call (.start "audio" { source := "-i" }), .call .shutdown, .hold]
    let spec := StreamSpec.build "tone" [.sink "screen", .looped true, .sink "\u2003\u00a0"]
    let x := (fresh {}).run steps
    (∃ record, .launched record ∈ (fresh {}).trace steps ∧
      ∃ source sink, input? record.arguments = some source ∧
        record.arguments.getLast? = some sink ∧ ¬ Blank source ∧ ¬ Blank sink) ∧
    x.held = true ∧ x.supervisor.shutDown = true ∧
    x.step (.call (.start " Video" spec)) = ⟨{ x with issued := x.issued + 1 },
      [.answered x.issued (.refused (.invalidSpec StreamSpec.sinkRequired))], .none⟩ := by
  intro steps spec x
  obtain ⟨hlaunched, hvalid, hrefused⟩ := launches_have_source_and_sink {} steps
  let record : LaunchRecord :=
    ⟨.audio, arguments {} .audio { source := "-i" }, false, false, [], false⟩
  have hrecord : .launched record ∈ (fresh {}).trace steps := by decide
  have haudio : ¬ Blank ({} : Settings).audioSink := mt (isBlank_iff _).mpr (by decide)
  have hvideo : ¬ Blank ({} : Settings).videoDevice := mt (isBlank_iff _).mpr (by decide)
  have hsource : ¬ Blank "tone" := mt (isBlank_iff _).mpr (by decide)
  have hsink : Blank "\u2003\u00a0" := (isBlank_iff _).mp (by decide)
  have hspec : spec.validate = .error (.invalidSpec StreamSpec.sinkRequired) :=
    (hvalid _ _ _).mpr (.inr ⟨hsource, "\u2003\u00a0", by decide, hsink, rfl⟩)
  exact ⟨⟨record, hrecord, hlaunched haudio hvideo record hrecord⟩, by decide, by decide,
    (hrefused " Video" .video _ _ _ (by decide) hspec).2⟩

end Session
end StreamSupervisor
