import StreamSupervisor.Text.Blank

/-! # Settings

The settings name the program that plays a stream and the devices and formats it plays
to. The program can come from the environment, if the variable holds readable text that
is not blank.
-/

namespace StreamSupervisor

structure Settings where
  program : String := "ffmpeg"
  audioSink : String := "audio_input"
  audioChannels : UInt32 := 2
  audioSampleRate : UInt32 := 48000
  videoDevice : String := "/dev/video10"
  pixelFormat : String := "yuv420p"
deriving DecidableEq, Repr

namespace Settings

inductive Choice where
  | program (name : String)
  | audioSink (name : String)
  | audioFormat (channels sampleRate : UInt32)
  | videoDevice (path : String)
  | pixelFormat (name : String)
deriving DecidableEq, Repr

def choose (g : Settings) : Choice → Settings
  | .program name => { g with program := name }
  | .audioSink name => { g with audioSink := name }
  | .audioFormat channels sampleRate =>
    { g with audioChannels := channels, audioSampleRate := sampleRate }
  | .videoDevice path => { g with videoDevice := path }
  | .pixelFormat name => { g with pixelFormat := name }

def chooseAll (g : Settings) (choices : List Choice) : Settings := choices.foldl choose g

/-- The default settings with the program that `FFMPEG_BIN` names, from what the variable
holds. They are kept as they are if it is unset, no text or blank. -/
def ofEnvironment (bytes? : Option ByteArray) : Settings :=
  match bytes?.bind String.fromUTF8? with
  | some name => if isBlank name then {} else { program := name }
  | none => {}

end Settings

end StreamSupervisor
