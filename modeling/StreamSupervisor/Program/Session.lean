import StreamSupervisor.Program.Host
import StreamSupervisor.Program.Step

/-! # Sessions with programs

A session on a supervisor that launches a program on a host of its own, and what it lets one
see.
-/

namespace StreamSupervisor

def Session.freshProgram (g : Settings) (p : Program) : Session Host := freshOn g (.fresh p)

/-- What a session with programs lets one see: the answers with their events, and the events
of all processes that ended, whose identifiers are written as given. -/
structure ProgramReport where
  steps : List (Answer × List Event)
  reaped : List Event
deriving DecidableEq, Repr

def ProgramReport.ofSteps (g : Settings) (p : Program) (digits : Nat → String)
    (steps : List ProgramStep) : ProgramReport :=
  let turns := (Session.freshProgram g p).programTurns steps
  { steps := turns.map fun t => (t.answer, t.trace.filterMap (·.event?))
    reaped := sortEnded digits (turns.flatMap fun t => t.trace.filterMap (·.reaped?)) }

end StreamSupervisor
