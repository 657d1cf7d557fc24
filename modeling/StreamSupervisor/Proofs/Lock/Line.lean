import StreamSupervisor.Proofs.Session.Numbers

/-! # Standing in line

Who has the registry, who stands in line for it, and how many calls were issued: this much
of a session depends on its steps alone, not on what the supervisor does. It decides which
moves a step makes.
-/

namespace StreamSupervisor

namespace Call

/-- The request of a call that passes its checks. -/
def request? : Call → Option Request
  | start key spec =>
    (Channel.ofKey? key).bind fun c => if spec.complaint? = none then some (.start c spec) else none
  | stop key => (Channel.ofKey? key).map .stop
  | status key => (Channel.ofKey? key).map .status
  | isRunning key => (Channel.ofKey? key).map .isRunning
  | list => some .list
  | stopAll => some .stopAll
  | shutdown => some .shutdown
  | isShutDown | pendingReapers => none
  | contains c => some (.contains c)
  | len => some .len
  | isEmpty => some .isEmpty

variable {ℓ : Type} {k : Supervisor ℓ} {call : Call} {r : Request}

theorem check_eq_queued_iff : k.check call = .queued r ↔ call.request? = some r := by
  cases call with
  | start key spec =>
    simp only [Supervisor.check, Admission.onChannel_eq_queued_iff, Channel.ofKey_eq_ok_iff,
      request?, Option.bind_eq_some_iff]
    refine exists_congr fun c => and_congr_right fun _ => ?_
    cases h : spec.complaint? <;> simp [StreamSpec.validate, Except.map, h]
  | stop key | status key | isRunning key =>
    simp [Supervisor.check, Admission.onChannel_eq_queued_iff, Channel.ofKey_eq_ok_iff, request?]
  | _ => simp [Supervisor.check, request?]

theorem check_start {key : String} {c : Channel} (hkey : Channel.ofKey? key = some c)
    (spec : StreamSpec) (k : Supervisor ℓ) :
    k.check (.start key spec) =
      match spec.validate with
      | .ok () => .queued (.start c spec)
      | .error e => .answered (.refused e) := by
  simp only [Supervisor.check, Admission.onChannel, Channel.ofKey, hkey, bind, Except.bind]
  cases spec.validate <;> rfl

theorem check_cases (k : Supervisor ℓ) (call : Call) :
    (call.request? = none ∧ ∃ a, k.check call = .answered a) ∨
      ∃ r, call.request? = some r ∧ k.check call = .queued r := by
  cases h : k.check call with
  | answered a =>
    refine .inl ⟨Option.eq_none_iff_forall_ne_some.mpr fun r hr => ?_, a, rfl⟩
    rw [check_eq_queued_iff.mpr hr] at h
    cases h
  | queued r => exact .inr ⟨r, check_eq_queued_iff.mp h, rfl⟩

theorem asks_iff : call.Asks r ↔ call.request? = some r :=
  ⟨fun h => check_eq_queued_iff.mp (h { settings := {}, launcher := {} }),
    fun h _ => check_eq_queued_iff.mpr h⟩

end Call

theorem Supervisor.announce_of_ne_shutdown {ℓ : Type} {k : Supervisor ℓ} {call : Call}
    (h : call ≠ .shutdown) : k.announce call = k := by
  cases call with
  | shutdown => exact (h rfl).elim
  | _ => rfl

theorem Session.issue_of_answered {ℓ : Type} [Launcher ℓ] {x : Session ℓ} {call : Call}
    {a : Answer} (hcall : call ≠ .shutdown) (ha : x.supervisor.check call = .answered a) :
    x.issue call = ({ x with issued := x.issued + 1 }, [.answered x.issued a]) := by
  simp only [issue, Supervisor.announce_of_ne_shutdown hcall, ha]

/-- The requests of some calls, which are numbered from `n` on. -/
def requestsFrom (n : Nat) (calls : List Call) : List (Nat × Request) :=
  (calls.zipIdx n).filterMap fun p => p.1.request?.map (p.2, ·)

@[simp] theorem requestsFrom_nil (n : Nat) : requestsFrom n [] = [] := rfl

theorem requestsFrom_cons (n : Nat) (call : Call) (rest : List Call) :
    requestsFrom n (call :: rest) =
      (call.request?.map (n, ·)).toList ++ requestsFrom (n + 1) rest := by
  cases h : call.request? <;> simp [requestsFrom, h]

theorem requestsFrom_append (n : Nat) (calls later : List Call) :
    requestsFrom n (calls ++ later) =
      requestsFrom n calls ++ requestsFrom (n + calls.length) later := by
  simp [requestsFrom, List.zipIdx_append, List.filterMap_append]

theorem mem_requestsFrom {n i : Nat} {calls : List Call} {r : Request} :
    (i, r) ∈ requestsFrom n calls ↔
      ∃ call, n ≤ i ∧ calls[i - n]? = some call ∧ call.request? = some r := by
  simp only [requestsFrom, List.mem_filterMap, Prod.exists,
    List.mk_mem_zipIdx_iff_le_and_getElem?_sub, Option.map_eq_some_iff, Prod.mk.injEq]
  constructor
  · rintro ⟨call, j, ⟨hj, hc⟩, r', hr, rfl, rfl⟩
    exact ⟨call, hj, hc, hr⟩
  · rintro ⟨call, hi, hc, hr⟩
    exact ⟨call, i, ⟨hi, hc⟩, r, hr, rfl, rfl⟩

/-- Who has the registry and who stands in line for it. -/
structure Line where
  held : Bool
  queue : List (Nat × Request)
  issued : Nat
deriving DecidableEq, Repr

namespace Line

variable {l : Line} {calls : List Call}

def issueAll (l : Line) (calls : List Call) : Line where
  held := l.held
  queue := if l.held then l.queue ++ requestsFrom l.issued calls else l.queue
  issued := l.issued + calls.length

def act (l : Line) : Step → Line
  | .hold => { l with held := true }
  | .release => { l with held := false, queue := [] }
  | s => l.issueAll s.calls

theorem issueAll_append (l : Line) (calls later : List Call) :
    l.issueAll (calls ++ later) = (l.issueAll calls).issueAll later := by
  cases h : l.held <;> simp [issueAll, h, requestsFrom_append, Nat.add_assoc]

@[simp] theorem issueAll_nil (l : Line) : l.issueAll [] = l := by
  cases l
  simp [issueAll]

theorem act_issued (l : Line) (s : Step) : (l.act s).issued = l.issued + s.calls.length := by
  cases s <;> rfl

/-- Nobody stands in line unless the registry is held. -/
def Idle (l : Line) : Prop := l.held = false → l.queue = []

theorem Idle.act (h : l.Idle) (s : Step) : (l.act s).Idle := by
  have issueAll (calls : List Call) : (l.issueAll calls).Idle := by
    intro hh
    have hl : l.held = false := hh
    simpa [Line.issueAll, hl] using h hl
  cases s with
  | hold => exact fun hh => by cases hh
  | release => exact fun _ => rfl
  | call call => exact issueAll [call]
  | batch calls => exact issueAll calls
  | _ => exact issueAll []

/-- Whoever stands in line was issued, and those in front were issued before. -/
structure Ordered (l : Line) : Prop where
  ascending : (l.queue.map (·.1)).Pairwise (· < ·)
  issued : ∀ p ∈ l.queue, p.1 < l.issued

theorem queue_issue (l : Line) (call : Call) :
    (l.issueAll [call]).queue = l.queue ∨
      ∃ r, (l.issueAll [call]).queue = l.queue ++ [(l.issued, r)] := by
  cases hr : call.request? <;> cases hh : l.held <;> simp [issueAll, requestsFrom_cons, hr, hh]

theorem Ordered.issueAll (h : l.Ordered) (calls : List Call) : (l.issueAll calls).Ordered := by
  induction calls generalizing l with
  | nil => rwa [issueAll_nil]
  | cons call rest ih =>
    rw [← List.singleton_append, issueAll_append]
    refine ih ?_
    have hold : ∀ p ∈ l.queue, p.1 < l.issued + 1 := fun p hp => Nat.lt_succ_of_lt (h.issued p hp)
    rcases l.queue_issue call with hq | ⟨r, hq⟩
    · exact ⟨hq ▸ h.ascending, hq ▸ hold⟩
    · refine ⟨?_, hq ▸ List.forall_mem_append.mpr ⟨hold, by simp [Line.issueAll]⟩⟩
      rw [hq, List.map_append, List.pairwise_append]
      refine ⟨h.ascending, List.pairwise_singleton _ _, fun n hn i hi => ?_⟩
      obtain ⟨p, hp, rfl⟩ := List.mem_map.mp hn
      obtain rfl := List.mem_singleton.mp hi
      exact h.issued p hp

theorem Ordered.act (h : l.Ordered) (s : Step) : (l.act s).Ordered := by
  cases s with
  | hold => exact ⟨h.ascending, h.issued⟩
  | release => exact ⟨.nil, by simp [Line.act]⟩
  | call call => exact h.issueAll [call]
  | batch calls => exact h.issueAll calls
  | _ => exact h.issueAll []

/-- The moves of some calls that are issued one after the other. -/
def callMoves (l : Line) (calls : List Call) : List Move :=
  (calls.zipIdx l.issued).flatMap fun p =>
    .issue p.2 p.1 :: if l.held then [] else (p.1.request?.map (.serve p.2)).toList

theorem callMoves_append (l : Line) (calls later : List Call) :
    l.callMoves (calls ++ later) = l.callMoves calls ++ (l.issueAll calls).callMoves later := by
  rw [callMoves, List.zipIdx_append, List.flatMap_append]
  rfl

def moves (l : Line) : Step → List Move
  | .script launches => [.script launches]
  | .exit i collected => [.tell i collected]
  | .release => l.queue.map fun p => .serve p.1 p.2
  | .guard call => if l.held then [.guard call] else []
  | s => l.callMoves s.calls

end Line

namespace Session

def line {ℓ : Type} (x : Session ℓ) : Line := ⟨x.held, x.queue, x.issued⟩

@[simp] theorem perform_line (x : Session Script) (n : Nat) (r : Request) :
    (x.perform n r).1.line = x.line := by
  simp only [perform]
  split <;> rfl

@[simp] theorem performAll_line (x : Session Script) (queue : List (Nat × Request)) :
    (x.performAll queue).1.line = x.line := by
  induction queue generalizing x with
  | nil => rfl
  | cons p rest ih => exact (ih _).trans (x.perform_line p.1 p.2)

@[simp] theorem settle_line (x : Session Script) (elapsed : Nat) :
    (x.settle elapsed).1.line = x.line := by
  simp only [settle]
  split <;> rfl

theorem issue_line (x : Session Script) (call : Call) :
    (x.issue call).1.line = x.line.issueAll [call] := by
  rcases Call.check_cases (x.supervisor.announce call) call with ⟨hr, a, hc⟩ | ⟨r, hr, hc⟩
  · simp [issue, hc, line, Line.issueAll, requestsFrom_cons, hr]
  · simp only [issue, hc]
    split
    · simp [line, Line.issueAll, requestsFrom_cons, *]
    · rw [perform_line]
      simp [line, Line.issueAll, *]

theorem issueAll_line (x : Session Script) (calls : List Call) :
    (x.issueAll calls).1.line = x.line.issueAll calls := by
  induction calls generalizing x with
  | nil => exact x.line.issueAll_nil.symm
  | cons call rest ih =>
    rw [issueAll, ih, issue_line, ← Line.issueAll_append, List.singleton_append]

theorem act_line (x : Session Script) (s : Step) : (x.act s).state.line = x.line.act s := by
  cases s with
  | call call => exact x.issue_line call
  | batch calls =>
    cases calls with
    | nil => exact x.line.issueAll_nil.symm
    | cons call rest => exact x.issueAll_line (call :: rest)
  | release => exact performAll_line _ _
  | hold => rfl
  | guard call =>
    simp only [act]
    split <;> exact x.line.issueAll_nil.symm
  | _ => exact x.line.issueAll_nil.symm

theorem step_line (x : Session Script) (s : Step) : (x.step s).state.line = x.line.act s :=
  ((x.act s).state.settle_line 0).trans (x.act_line s)

theorem run_line (x : Session Script) (steps : List Step) :
    (x.run steps).line = steps.foldl Line.act x.line := by
  induction steps generalizing x with
  | nil => rfl
  | cons s rest ih => exact (ih _).trans (by rw [step_line, List.foldl_cons])

theorem idle_run (g : Settings) (steps : List Step) : ((fresh g).run steps).line.Idle := by
  rw [run_line]
  exact List.foldlRecOn steps _ (fun _ => rfl) fun _ h s _ => h.act s

theorem ordered_run (g : Settings) (steps : List Step) :
    ((fresh g).run steps).line.Ordered := by
  rw [run_line]
  exact List.foldlRecOn steps _ ⟨.nil, by simp [fresh, line]⟩ fun _ h s _ => h.act s

theorem issueMoves_eq (x : Session Script) (call : Call) :
    x.issueMoves call = x.line.callMoves [call] := by
  rcases Call.check_cases (x.supervisor.announce call) call with ⟨hr, a, hc⟩ | ⟨r, hr, hc⟩ <;>
    simp [issueMoves, hc, line, Line.callMoves, hr]

theorem issueAllMoves_eq (x : Session Script) (calls : List Call) :
    x.issueAllMoves calls = x.line.callMoves calls := by
  induction calls generalizing x with
  | nil => rfl
  | cons call rest ih =>
    rw [issueAllMoves, ih, issueMoves_eq, issue_line, ← Line.callMoves_append,
      List.singleton_append]

theorem actMoves_eq (x : Session Script) (s : Step) : x.actMoves s = x.line.moves s := by
  cases s with
  | call call => exact x.issueMoves_eq call
  | batch calls => exact x.issueAllMoves_eq calls
  | _ => rfl

end Session
end StreamSupervisor
