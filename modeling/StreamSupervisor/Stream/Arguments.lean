import StreamSupervisor.Settings
import StreamSupervisor.Stream.Spec

/-! # Argument lists

The argument list of the playing program: read at native speed, loop if asked to, then
the source, the output's format and, last, the sink.
-/

namespace StreamSupervisor

/-- Where a stream goes: to the sink of its spec, else to the channel's own. -/
def outputSink (g : Settings) (c : Channel) (s : StreamSpec) : String :=
  match s.sink, c with
  | some sink, _ => sink
  | none, .audio => g.audioSink
  | none, .video => g.videoDevice

def formatOptions (g : Settings) : Channel → List String
  | .audio => ["-f", "pulse", "-ac", toString g.audioChannels.toNat,
      "-ar", toString g.audioSampleRate.toNat]
  | .video => ["-f", "v4l2", "-pix_fmt", g.pixelFormat, "-vcodec", "rawvideo"]

def loopOptions (looped : Bool) : List String :=
  if looped then ["-stream_loop", "-1"] else []

def arguments (g : Settings) (c : Channel) (s : StreamSpec) : List String :=
  "-re" :: loopOptions s.looped ++ ["-i", s.source] ++ formatOptions g c ++ [outputSink g c s]

theorem getLast?_arguments (g : Settings) (c : Channel) (s : StreamSpec) :
    (arguments g c s).getLast? = some (outputSink g c s) := by
  simp only [arguments, List.getLast?_concat]

end StreamSupervisor
