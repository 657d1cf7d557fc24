import StreamSupervisor.Fault

/-! # Stream specs

A spec says what to play and where to. It is built by successive choices, of which the
last of each kind counts, and is refused if it names no source or a blank sink.
-/

namespace StreamSupervisor

structure StreamSpec where
  source : String
  looped : Bool := false
  restart : Bool := false
  sink : Option String := none
deriving DecidableEq, Repr

namespace StreamSpec

inductive Choice where
  | looped (on : Bool)
  | restart (on : Bool)
  | sink (name : String)
deriving DecidableEq, Repr

def choose (s : StreamSpec) : Choice → StreamSpec
  | .looped on => { s with looped := on }
  | .restart on => { s with restart := on }
  | .sink name => { s with sink := some name }

/-- The spec of a source after the choices, made in order. -/
def build (source : String) (choices : List Choice) : StreamSpec :=
  choices.foldl choose { source }

def sourceRequired : String := "source locator is required"
def sinkRequired : String := "sink must not be empty when given"

/-- What is wrong with a spec, the source's fault first. -/
def complaint? (s : StreamSpec) : Option String :=
  if isBlank s.source then some sourceRequired
  else if s.sink.any isBlank then some sinkRequired
  else none

def validate (s : StreamSpec) : Except StreamError Unit :=
  match s.complaint? with
  | some complaint => .error (.invalidSpec complaint)
  | none => .ok ()

theorem complaint?_eq_none_iff (s : StreamSpec) :
    s.complaint? = none ↔ ¬ Blank s.source ∧ ∀ k, s.sink = some k → ¬ Blank k := by
  simp only [complaint?, ← isBlank_iff]
  cases isBlank s.source <;> cases s.sink <;> simp

theorem validate_eq_ok_iff (s : StreamSpec) :
    s.validate = .ok () ↔ ¬ Blank s.source ∧ ∀ k, s.sink = some k → ¬ Blank k := by
  rw [← complaint?_eq_none_iff, validate]
  cases s.complaint? <;> simp

theorem validate_eq_error_iff {s : StreamSpec} {e : StreamError} :
    s.validate = .error e ↔
      ∃ complaint, s.complaint? = some complaint ∧ e = .invalidSpec complaint := by
  unfold validate
  cases s.complaint? <;> simp [eq_comm]

@[simp] theorem choose_source (s : StreamSpec) (c : Choice) : (s.choose c).source = s.source := by
  cases c <;> rfl

theorem build_source (source : String) (choices : List Choice) :
    (build source choices).source = source := by
  have h (s : StreamSpec) : (choices.foldl choose s).source = s.source := by
    induction choices generalizing s with
    | nil => rfl
    | cons c cs ih => simp [ih]
  exact h _

end StreamSpec

end StreamSupervisor
