import StreamSupervisor.Machine.Bytes

/-! # Signals

The numbers of the signals, and what a signal does to a process that neither ignores nor
handles it.
-/

namespace StreamSupervisor.Machine

/-- The signals by number; the first name belongs to number one. -/
def signalNames : List String :=
  ["HUP", "INT", "QUIT", "ILL", "TRAP", "ABRT", "BUS", "FPE", "KILL", "USR1", "SEGV", "USR2",
    "PIPE", "ALRM", "TERM", "STKFLT", "CHLD", "CONT", "STOP", "TSTP", "TTIN", "TTOU", "URG",
    "XCPU", "XFSZ", "VTALRM", "PROF", "WINCH", "POLL", "PWR", "SYS"]

/-- The signals without a name of their own, counted from the ends of their range. -/
def realtimeSignal? (name : String) : Option Nat :=
  let offset (s : String) : Option Nat := if isDigits s then s.toNat? else none
  if name = "RTMIN" then some 34
  else if name = "RTMAX" then some 64
  else if name.startsWith "RTMIN+" then
    (offset (dropChars 6 name)).bind fun n => if n ≤ 30 then some (34 + n) else none
  else if name.startsWith "RTMAX-" then
    (offset (dropChars 6 name)).bind fun n => if n ≤ 30 then some (64 - n) else none
  else none

/-- The signal of a name, whatever its letters' case. -/
def signalNamed? (name : String) : Option Nat :=
  let name := name.toUpper
  if name = "EXIT" then some 0
  else
    match signalNames.findIdx? (· == name) with
    | some n => some (n + 1)
    | none => realtimeSignal? name

/-- The signal of a name or a number; zero stands for no signal. -/
def signalNumber? (text : String) : Option Nat :=
  if isDigits text then
    match text.toNat? with
    | some n => if n ≤ 64 then some n else none
    | none => none
  else signalNamed? text

/-- The signal of a name with or without its usual beginning, or of a number. -/
def signalLong? (text : String) : Option Nat :=
  if text.toUpper.startsWith "SIG" then signalNamed? (dropChars 3 text) else signalNumber? text

/-- The usual name of a signal. -/
def signalName (signal : Nat) : String :=
  if signal = 0 then "EXIT"
  else
    match signalNames[signal - 1]? with
    | some name => name
    | none =>
      if signal = 34 then "RTMIN"
      else if signal < 50 then "RTMIN+" ++ toString (signal - 34)
      else if signal = 64 then "RTMAX"
      else "RTMAX-" ++ toString (64 - signal)

/-- What a signal does by default. -/
inductive SignalAction where
  | ignore
  | stop
  | resume
  | terminate
deriving DecidableEq, Repr

def defaultAction (signal : Nat) : SignalAction :=
  if [0, 17, 23, 28].contains signal then .ignore
  else if signal = 18 then .resume
  else if [19, 20, 21, 22].contains signal then .stop
  else .terminate

/-- The signals that can be neither ignored nor handled. -/
def isStubborn (signal : Nat) : Bool := signal = 9 || signal = 19

end StreamSupervisor.Machine
