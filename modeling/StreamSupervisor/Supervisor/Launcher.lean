import StreamSupervisor.Event

/-! # Launchers

A launcher turns a request into a running process or a fault. The processes of a runner run on a
machine: it knows them by their numbers there, kills them, and lets time pass for them. A scripted
launcher answers from a list that was written beforehand, and with a plain process once the list
is used up.
-/

namespace StreamSupervisor

inductive Course where
  /-- Runs until its token fires or it is told to end. -/
  | untilCancelled
  /-- Runs until it is told to end, whatever its token says. -/
  | untilTold
  /-- Ends of itself after some milliseconds, unless its token fires before. -/
  | after (delay : Nat) (collected : Collected)
deriving DecidableEq, Repr

structure LaunchRequest where
  channel : Channel
  arguments : List String
  index : Nat
deriving DecidableEq, Repr

structure Child where
  pid : Option Nat
  course : Course
deriving DecidableEq, Repr

structure LaunchReply (ℓ : Type) where
  launcher : ℓ
  events : List Event
  child : Except Fault Child

class Launcher (ℓ : Type) where
  launch : ℓ → LaunchRequest → LaunchReply ℓ

class Runner (ρ : Type) extends Launcher ρ where
  pids : ρ → List Nat
  ended? : ρ → Nat → Option WaitStatus
  kill : ρ → Nat → ρ
  /-- Let time pass until something holds of how the processes have ended. -/
  run : ρ → ((Nat → Option WaitStatus) → Bool) → ρ

inductive ScriptedPid where
  | numbered
  | given (pid : Option Nat)
deriving DecidableEq, Repr

namespace ScriptedPid

def resolve (index : Nat) : ScriptedPid → Option Nat
  | numbered => some (1000 + index)
  | given pid => pid

end ScriptedPid

inductive ScriptedLaunch where
  | succeed (pid : ScriptedPid) (course : Course)
  | fail (fault : Fault)
deriving DecidableEq, Repr

structure Script where
  launches : List ScriptedLaunch := []
deriving DecidableEq, Repr

namespace Script

def next (s : Script) : ScriptedLaunch :=
  s.launches.headD (.succeed .numbered .untilCancelled)

def append (s : Script) (launches : List ScriptedLaunch) : Script := ⟨s.launches ++ launches⟩

instance : Launcher Script where
  launch s r :=
    { launcher := ⟨s.launches.tail⟩
      events := []
      child :=
        match s.next with
        | .succeed pid course => .ok ⟨pid.resolve r.index, course⟩
        | .fail fault => .error fault }

end Script

end StreamSupervisor
