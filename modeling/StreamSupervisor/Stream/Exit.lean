import StreamSupervisor.Fault

/-! # How a process ended

Collecting a child's status gives a wait status or a fault. The outcome tells a cancelled
process from one that ended of itself, and only the latter has an exit code.
-/

namespace StreamSupervisor

/-- A wait status: the low seven bits name a signal, the next byte up is the exit code. -/
structure WaitStatus where
  raw : Int32
deriving DecidableEq, Repr

namespace WaitStatus

def exited (code : Nat) : WaitStatus := ⟨Int32.ofNat (code % 256 * 256)⟩

def signalled (signal : Nat) : WaitStatus := ⟨Int32.ofNat (signal % 128)⟩

def killed : WaitStatus := signalled 9

def success (w : WaitStatus) : Bool := w.raw.toInt == 0

theorem success_iff {w : WaitStatus} : w.success = true ↔ w.raw = 0 := by
  rw [success, beq_iff_eq, ← Int32.toInt_inj]
  rfl

def code? (w : WaitStatus) : Option Int32 :=
  if w.raw.toInt % 128 = 0 then some (Int32.ofInt (w.raw.toInt / 256 % 256)) else none

end WaitStatus

inductive Collected where
  | status (status : WaitStatus)
  | fault (fault : Fault)
deriving DecidableEq, Repr

inductive ExitOutcome where
  | cancelled
  | completed
  | failed (code : Option Int32)
  | waitFailed (text : String)
deriving DecidableEq, Repr

namespace ExitOutcome

/-- The outcome of a process, given whether its token had fired when it was collected. -/
def classify (collected : Collected) (fired : Bool) : ExitOutcome :=
  match collected with
  | .fault fault => .waitFailed fault.text
  | .status status =>
    if fired then .cancelled
    else if status.success then .completed
    else .failed status.code?

def isExpected : ExitOutcome → Bool
  | cancelled | completed => true
  | failed _ | waitFailed _ => false

def text : ExitOutcome → String
  | cancelled => "cancelled"
  | completed => "completed"
  | failed (some code) => "exited with status " ++ toString code.toInt
  | failed none => "terminated by signal"
  | waitFailed text => "wait failed: " ++ text

@[simp] theorem classify_fault (fault : Fault) (fired : Bool) :
    classify (.fault fault) fired = .waitFailed fault.text := rfl

@[simp] theorem classify_fired (status : WaitStatus) :
    classify (.status status) true = .cancelled := rfl

theorem isExpected_classify (collected : Collected) (fired : Bool) :
    (classify collected fired).isExpected = true ↔
      ∃ status, collected = .status status ∧ (fired = true ∨ status.success = true) := by
  cases collected with
  | fault fault => simp [isExpected]
  | status status => cases fired <;> cases h : status.success <;> simp [classify, isExpected, h]

end ExitOutcome

end StreamSupervisor
