import StreamSupervisor.Stream.Exit

/-! # Log events

Each event is what happened, with what it happened to. Level, message and fields are
functions of the event.
-/

namespace StreamSupervisor

inductive Level where
  | debug
  | info
  | warn
  | error
deriving DecidableEq, Repr

def Level.name : Level → String
  | debug => "debug"
  | info => "info"
  | warn => "warn"
  | error => "error"

inductive Event where
  | refusedShutDown (channel : Channel)
  | refusedRunning (channel : Channel) (pid : Option Nat)
  | superseded (channel : Channel) (pid : Option Nat) (source : String)
  | spawning (channel : Channel) (program : String) (arguments : List String)
  | launchFailed (channel : Channel) (source : String) (fault : Fault)
  | started (channel : Channel) (pid : Option Nat) (source : String)
  | refusedNotRunning (channel : Channel)
  | stopRequested (channel : Channel) (pid : Option Nat)
  | awaiting (stopped pending : Nat)
  | killFailed (fault : Fault)
  | ended (channel : Channel) (pid : Option Nat) (outcome : ExitOutcome)
deriving DecidableEq, Repr

inductive FieldValue where
  | text (value : String)
  | count (value : Nat)
deriving DecidableEq, Repr

def pidText (digits : Nat → String) : Option Nat → String
  | some pid => "Some(" ++ digits pid ++ ")"
  | none => "None"

namespace Event

def level : Event → Level
  | spawning .. | killFailed _ => .debug
  | superseded .. | started .. | stopRequested .. | awaiting .. => .info
  | refusedShutDown _ | refusedRunning .. | refusedNotRunning _ => .warn
  | launchFailed .. => .error
  | ended _ _ outcome => if outcome.isExpected then .info else .error

def message : Event → String
  | refusedShutDown _ => "Start rejected: controller is shut down"
  | refusedRunning .. => "Start rejected: stream already running"
  | superseded .. => "Superseding running stream"
  | spawning .. => "Spawning stream process"
  | launchFailed .. => "Failed to start stream process"
  | started .. => "Stream started"
  | refusedNotRunning _ => "Stop rejected: no stream running"
  | stopRequested .. => "Stream stop requested"
  | awaiting .. => "Waiting for stream processes to exit"
  | killFailed _ => "Kill after cancellation failed"
  | ended _ _ outcome =>
    match outcome with
    | .cancelled => "Stream process stopped"
    | .completed => "Stream process exited cleanly"
    | _ => "Stream process exited with error"

/-- The named values of an event; `digits` writes process identifiers. -/
def fields (digits : Nat → String) : Event → List (String × FieldValue)
  | refusedShutDown c | refusedNotRunning c => [("channel", .text c.name)]
  | refusedRunning c pid | stopRequested c pid =>
    [("channel", .text c.name), ("pid", .text (pidText digits pid))]
  | superseded c pid source | started c pid source =>
    [("channel", .text c.name), ("pid", .text (pidText digits pid)), ("source", .text source)]
  | spawning c program arguments =>
    [("channel", .text c.name), ("program", .text program),
      ("args", .text (" ".intercalate arguments))]
  | launchFailed c source fault =>
    [("channel", .text c.name), ("source_url", .text source), ("error", .text fault.text)]
  | awaiting stopped pending => [("stopped", .count stopped), ("pending", .count pending)]
  | killFailed fault => [("error", .text fault.text)]
  | ended c pid outcome =>
    [("channel", .text c.name), ("pid", .text (pidText digits pid))] ++
      if outcome.isExpected then [] else [("outcome", .text outcome.text)]

/-- By what the events of ended processes are put in order. -/
def endedKey (digits : Nat → String) : Event → List String
  | e@(ended c pid outcome) =>
    [pidText digits pid, c.name, e.message, if outcome.isExpected then "" else outcome.text]
  | e => [e.message]

end Event

def textBefore (s t : String) : Bool :=
  s.toList.lex t.toList fun c d => decide (c.toNat < d.toNat)

def sortEnded (digits : Nat → String) (events : List Event) : List Event :=
  events.mergeSort fun a b => !(b.endedKey digits).lex (a.endedKey digits) textBefore

end StreamSupervisor
