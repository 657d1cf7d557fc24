import StreamSupervisor.Stream.Arguments

/-! # Argument lists can be read back

An argument list says what is played: whether over and over, from which source, in which form
and to which sink. One reader finds this in every list, since each text stands at a place that
the loop and the format before it settle, and no text is searched for options.
-/

namespace StreamSupervisor

/-- The form in which a stream is put out, which is a channel's own. -/
inductive OutputFormat where
  | audio (channels sampleRate : UInt32)
  | video (pixelFormat : String)
deriving DecidableEq, Repr

namespace OutputFormat

def channel : OutputFormat → Channel
  | audio .. => .audio
  | video _ => .video

def options : OutputFormat → List String
  | audio channels sampleRate => ["-f", "pulse", "-ac", toString channels.toNat,
      "-ar", toString sampleRate.toNat]
  | video pixelFormat => ["-f", "v4l2", "-pix_fmt", pixelFormat, "-vcodec", "rawvideo"]

end OutputFormat

def outputFormat (g : Settings) : Channel → OutputFormat
  | .audio => .audio g.audioChannels g.audioSampleRate
  | .video => .video g.pixelFormat

/-- What is played, and how. -/
structure Playing where
  looped : Bool
  source : String
  format : OutputFormat
  sink : String
deriving DecidableEq, Repr

def ofDecimal (text : String) : Nat := Nat.ofDigitChars 10 text.toList 0

theorem ofDecimal_toString (n : Nat) : ofDecimal (toString n) = n := by
  rw [ofDecimal, Nat.toString_eq_repr, Nat.repr_eq_ofList_toDigits, String.toList_ofList,
    Nat.ofDigitChars_toDigits (by decide) (by decide)]

def readNumber? (text : String) : Option UInt32 :=
  if toString (ofDecimal text) = text ∧ ofDecimal text < UInt32.size then
    some (.ofNat (ofDecimal text))
  else none

theorem readNumber?_eq_some_iff {text : String} {u : UInt32} :
    readNumber? text = some u ↔ text = toString u.toNat := by
  simp only [readNumber?, Option.ite_none_right_eq_some, Option.some.injEq]
  constructor
  · rintro ⟨⟨htext, hlt⟩, rfl⟩
    rw [UInt32.toNat_ofNat_of_lt' hlt, htext]
  · rintro rfl
    rw [ofDecimal_toString]
    exact ⟨⟨rfl, u.toNat_lt_size⟩, UInt32.ofNat_toNat⟩

@[simp] theorem readNumber?_toString (u : UInt32) : readNumber? (toString u.toNat) = some u :=
  readNumber?_eq_some_iff.mpr rfl

namespace Playing

def arguments (p : Playing) : List String :=
  "-re" :: loopOptions p.looped ++ ["-i", p.source] ++ p.format.options ++ [p.sink]

def readOutput? : List String → Option (OutputFormat × String)
  | ["-f", "pulse", "-ac", channels, "-ar", sampleRate, sink] =>
    (readNumber? channels).bind fun n =>
      (readNumber? sampleRate).map fun m => (.audio n m, sink)
  | ["-f", "v4l2", "-pix_fmt", pixelFormat, "-vcodec", "rawvideo", sink] =>
    some (.video pixelFormat, sink)
  | _ => none

/-- Read an argument list. -/
def read? : List String → Option Playing
  | "-re" :: "-stream_loop" :: "-1" :: "-i" :: source :: output =>
    (readOutput? output).map fun o => ⟨true, source, o.1, o.2⟩
  | "-re" :: "-i" :: source :: output =>
    (readOutput? output).map fun o => ⟨false, source, o.1, o.2⟩
  | _ => none

theorem readOutput?_eq_some_iff {output : List String} {format : OutputFormat} {sink : String} :
    readOutput? output = some (format, sink) ↔ output = format.options ++ [sink] := by
  constructor
  · intro h
    unfold readOutput? at h
    split at h
    · simp only [Option.bind_eq_some_iff, Option.map_eq_some_iff, readNumber?_eq_some_iff,
        Prod.mk.injEq] at h
      obtain ⟨n, rfl, m, rfl, rfl, rfl⟩ := h
      rfl
    · obtain ⟨rfl, rfl⟩ := Prod.mk.inj (Option.some.inj h)
      rfl
    · cases h
  · rintro rfl
    cases format with
    | audio channels sampleRate =>
      simp only [OutputFormat.options, List.cons_append, List.nil_append, readOutput?,
        readNumber?_toString, Option.bind_some, Option.map_some]
    | video pixelFormat => rfl

theorem read?_eq_some_iff {l : List String} {p : Playing} : read? l = some p ↔ l = p.arguments := by
  constructor
  · intro h
    unfold read? at h
    split at h
    · obtain ⟨o, ho, rfl⟩ := Option.map_eq_some_iff.mp h
      rw [readOutput?_eq_some_iff.mp ho]
      rfl
    · obtain ⟨o, ho, rfl⟩ := Option.map_eq_some_iff.mp h
      rw [readOutput?_eq_some_iff.mp ho]
      rfl
    · cases h
  · rintro rfl
    have output : readOutput? (p.format.options ++ [p.sink]) = some (p.format, p.sink) :=
      readOutput?_eq_some_iff.mpr rfl
    obtain ⟨looped, source, format, sink⟩ := p
    cases looped <;> simp [read?, arguments, loopOptions, output]

theorem arguments_inj {p q : Playing} : p.arguments = q.arguments ↔ p = q := by
  refine ⟨fun h => ?_, fun h => h ▸ rfl⟩
  have hp : read? p.arguments = some p := read?_eq_some_iff.mpr rfl
  rw [h, read?_eq_some_iff.mpr rfl] at hp
  exact (Option.some.inj hp).symm

end Playing

def playing (g : Settings) (c : Channel) (s : StreamSpec) : Playing where
  looped := s.looped
  source := s.source
  format := outputFormat g c
  sink := outputSink g c s

theorem arguments_eq_playing (g : Settings) (c : Channel) (s : StreamSpec) :
    arguments g c s = (playing g c s).arguments := by
  cases c <;> rfl

theorem outputSink_eq_getD (g : Settings) (c : Channel) (s : StreamSpec) :
    outputSink g c s = s.sink.getD (match c with
      | .audio => g.audioSink
      | .video => g.videoDevice) := by
  unfold outputSink
  split <;> simp [*]

theorem outputFormat_inj {g g' : Settings} {c c' : Channel} :
    outputFormat g c = outputFormat g' c' ↔ c = c' ∧
      (c = .audio → g.audioChannels = g'.audioChannels ∧
        g.audioSampleRate = g'.audioSampleRate) ∧
      (c = .video → g.pixelFormat = g'.pixelFormat) := by
  cases c <;> cases c' <;> simp [outputFormat]

/-- **Argument lists can be read back.** Two argument lists are the same just if they are for the
same channel, play the same source, both over and over or both once, to the same sink, and in the
same form: for audio the count of its channels and the sample rate agree, for video the pixel
format. One reader finds all this in any argument list, and takes nothing else for one; the form
tells the channel. Whether a stream is restarted, which program plays it and what the settings have
for the other channel does not show. -/
theorem arguments_can_be_read_back (g g' : Settings) (c c' : Channel) (s s' : StreamSpec) :
    (arguments g c s = arguments g' c' s' ↔
      c = c' ∧ s.looped = s'.looped ∧ s.source = s'.source ∧
      outputSink g c s = outputSink g' c' s' ∧
      (c = .audio → g.audioChannels = g'.audioChannels ∧
        g.audioSampleRate = g'.audioSampleRate) ∧
      (c = .video → g.pixelFormat = g'.pixelFormat)) ∧
    Playing.read? (arguments g c s) = some
      { looped := s.looped
        source := s.source
        format := match c with
          | .audio => .audio g.audioChannels g.audioSampleRate
          | .video => .video g.pixelFormat
        sink := outputSink g c s } ∧
    (Playing.read? (arguments g c s)).map (·.format.channel) = some c ∧
    (∀ l p, Playing.read? l = some p ↔ l = p.arguments) ∧
    (∀ restart program audioSink audioChannels audioSampleRate,
      arguments { g with
        program := program, audioSink := audioSink, audioChannels := audioChannels,
        audioSampleRate := audioSampleRate } .video { s with restart := restart } =
          arguments g .video s) ∧
    ∀ restart program videoDevice pixelFormat,
      arguments { g with
        program := program, videoDevice := videoDevice, pixelFormat := pixelFormat }
          .audio { s with restart := restart } = arguments g .audio s := by
  have hread : Playing.read? (arguments g c s) = some (playing g c s) := by
    rw [arguments_eq_playing, Playing.read?_eq_some_iff]
  refine ⟨?_, ?_, ?_, fun l p => Playing.read?_eq_some_iff, ?_, ?_⟩
  · rw [arguments_eq_playing, arguments_eq_playing, Playing.arguments_inj, playing, playing,
      Playing.mk.injEq, outputFormat_inj]
    constructor
    · rintro ⟨hlooped, hsource, ⟨hchannel, hform⟩, hsink⟩
      exact ⟨hchannel, hlooped, hsource, hsink, hform⟩
    · rintro ⟨hchannel, hlooped, hsource, hsink, hform⟩
      exact ⟨hlooped, hsource, ⟨hchannel, hform⟩, hsink⟩
  · rw [hread]
    cases c <;> rfl
  · rw [hread]
    cases c <;> rfl
  · intros
    rw [arguments, arguments, outputSink_eq_getD, outputSink_eq_getD]
    rfl
  · intros
    rw [arguments, arguments, outputSink_eq_getD, outputSink_eq_getD]
    rfl

/-- Texts that look like options stay what they are. -/
example : Playing.read? (arguments { pixelFormat := "-i" } .video
    { source := "-stream_loop", sink := some "" }) =
      some ⟨false, "-stream_loop", .video "-i", ""⟩ := by
  decide

end StreamSupervisor
