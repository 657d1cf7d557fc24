import StreamSupervisor.Proofs.Lock.Line
import StreamSupervisor.Proofs.Shutdown.Return

/-! # Outlines

The outline of a supervisor leaves out whether and how its processes have ended. What a
request does is the same on the outline, so that no decision looks at how processes end.
-/

namespace StreamSupervisor

def StreamStatus.outline (s : StreamStatus) : StreamStatus := { s with exit := none }

/-- What an answer says to a call, apart from how processes have ended. -/
def Answer.outline : Call → Answer → Answer
  | .isRunning _, .flag _ => .done
  | .pendingReapers, .count _ => .done
  | _, .status s => .status (s.map .outline)
  | _, .statuses ss => .statuses (ss.map .outline)
  | _, a => a

def StepAnswer.outline : StepAnswer → StepAnswer
  | .status s => .status (s.map .outline)
  | .statuses ss => .statuses (ss.map .outline)
  | a => a

/-- An event without the number of processes that a shutdown still waits for. -/
def Event.outline : Event → Event
  | awaiting stopped _ => awaiting stopped 0
  | e => e

/-- What is left of a happening among some calls: the ends of processes and the returns of
shutdowns are left out. -/
def Happening.outline? (calls : List Call) : Happening → Option Happening
  | logged e => some (logged e.outline)
  | launched r => some (launched r)
  | reaped .. => none
  | answered n a =>
    calls[n]?.bind fun call =>
      if call = .shutdown then none else some (answered n (a.outline call))

def outlineTrace (calls : List Call) (trace : List Happening) : List Happening :=
  trace.filterMap (Happening.outline? calls)

theorem outlineTrace_append (calls : List Call) (trace trace' : List Happening) :
    outlineTrace calls (trace ++ trace') = outlineTrace calls trace ++ outlineTrace calls trace' :=
  List.filterMap_append

def Course.outline (seen : Bool) (course : Course) : Course :=
  if seen then course else .untilCancelled

def Process.outline (seen : Bool) (p : Process) : Process :=
  { p with course := p.course.outline seen, exit := none }

def ScriptedLaunch.outline (seen : Bool) : ScriptedLaunch → ScriptedLaunch
  | succeed pid course => succeed pid (course.outline seen)
  | fail fault => fail fault

/-- A supervisor without the ends of its processes; `seen` says whether the courses of its
processes and of those in its script belong to the outline. -/
def Supervisor.outline (seen : Bool) (k : Supervisor Script) : Supervisor Script :=
  { k with
    launcher := ⟨k.launcher.launches.map (.outline seen)⟩
    processes := k.processes.map (.outline seen) }

def Turn.map {σ τ α : Type} (f : σ → τ) (t : Turn σ α) : Turn τ α := ⟨f t.state, t.trace, t.answer⟩

namespace Process

variable (seen : Bool)

theorem outline_settle (p : Process) : (p.settle 0).outline seen = p.outline seen := by
  unfold settle
  split
  · split
    · rfl
    · split <;> rfl
    · rename_i delay collected hc
      split
      · rfl
      · split
        · rfl
        · rw [Nat.sub_zero, ← hc]
  · rfl

end Process

namespace Supervisor

variable (seen : Bool) (k : Supervisor Script) {calls : List Call}

theorem outline_fire (o : Owner) :
    (k.fire o).outline seen = (k.outline seen).fire o := by
  cases o with
  | process i =>
    have hp : (k.processes.modify i Process.fire).map (Process.outline seen) =
        (k.processes.map (Process.outline seen)).modify i Process.fire := by
      refine List.ext_getElem? fun j => ?_
      simp only [List.getElem?_map, List.getElem?_modify]
      cases k.processes[j]? with
      | none => rfl
      | some p => by_cases h : i = j <;> simp [h, Process.fire, Process.outline]
    simp [fire, outline, hp]
  | guest i => rfl

theorem outline_fireEach (os : List Owner) :
    (k.fireEach os).outline seen = (k.outline seen).fireEach os := by
  induction os generalizing k with
  | nil => rfl
  | cons o os ih => exact (ih _).trans (congrArg (fireEach · os) (k.outline_fire seen o))

theorem outline_fireAll :
    k.fireAll.outline seen = (k.outline seen).fireAll := by
  simp [fireAll, outline, Process.outline, Process.fire]

theorem outline_dismiss (c : Channel) (e : Entry) :
    (k.dismiss c e).outline seen = (k.outline seen).dismiss c e := outline_fire _ _ _

theorem outline_stop (c : Channel) :
    (k.outline seen).stop c = (k.stop c).map (outline seen) := by
  have hr : (k.outline seen).registry = k.registry := rfl
  simp only [stop, hr]
  cases k.registry.get c with
  | none => rfl
  | some e => simp [Turn.map, outline_dismiss]

theorem outline_stopAll :
    (k.outline seen).stopAll = k.stopAll.map (outline seen) := by
  have hstate : (k.outline seen).stopAll.state = k.stopAll.state.outline seen := by
    rw [stopAll_state, stopAll_state, outline_fireEach]
    rfl
  exact congrArg (Turn.mk · _ _) hstate

theorem outline_next (script : Script) :
    Script.next ⟨script.launches.map (.outline seen)⟩ = script.next.outline seen := by
  rcases script with ⟨_ | ⟨l, rest⟩⟩
  · cases seen <;> rfl
  · rfl

theorem outline_asked (c : Channel) (s : StreamSpec) :
    (k.outline seen).asked c s =
      { launcher := ⟨(k.asked c s).launcher.launches.map (.outline seen)⟩
        events := []
        child := (k.asked c s).child.map fun child =>
          { child with course := child.course.outline seen } } := by
  have hl : (k.outline seen).processes.length = k.processes.length := by simp [outline]
  have hn : (k.outline seen).launcher.next = k.launcher.next.outline seen :=
    outline_next seen _
  have ht : (k.outline seen).launcher.launches.tail =
      k.launcher.launches.tail.map (.outline seen) := by simp [outline]
  simp only [asked, Launcher.launch, hl, hn, ht]
  cases k.launcher.next <;> rfl

theorem outline_launchRecord (c : Channel) (arguments : List String)
    (failed : Bool) : (k.outline seen).launchRecord c arguments failed =
      k.launchRecord c arguments failed := by
  simp [launchRecord, outline, Process.outline, Function.comp_def]

theorem outline_launch (c : Channel) (s : StreamSpec) :
    (k.outline seen).launch c s = (k.launch c s).map (outline seen) := by
  have ha := k.outline_asked seen c s
  have he : (k.asked c s).events = [] := rfl
  cases hc : (k.asked c s).child with
  | error fault =>
    have hc' : ((k.outline seen).asked c s).child = .error fault := by rw [ha, hc]; rfl
    rw [launch_of_error hc, launch_of_error hc', ha, outline_launchRecord, he]
    rfl
  | ok child =>
    have hc' : ((k.outline seen).asked c s).child =
        .ok { child with course := child.course.outline seen } := by rw [ha, hc]; rfl
    rw [launch_of_ok hc, launch_of_ok hc', ha, outline_launchRecord, he]
    simp [Turn.map, install, outline, Process.outline]

theorem outline_start (c : Channel) (s : StreamSpec) :
    (k.outline seen).start c s = (k.start c s).map (outline seen) := by
  have hr : (k.outline seen).registry = k.registry := rfl
  have hk : (k.outline seen).shutDown = k.shutDown := rfl
  simp only [start, hr, hk]
  split
  · rfl
  · split
    · exact k.outline_launch seen c s
    · split
      · rw [← outline_dismiss, outline_launch]
        rfl
      · rfl

theorem outline_statusOf (c : Channel) (e : Entry) :
    (k.outline seen).statusOf c e = (k.statusOf c e).outline := by
  have he : (k.outline seen).exit? e.owner = none := by
    cases e.owner <;> simp [exit?, outline, Process.outline, Option.map_eq_some_iff]
  simp [statusOf, StreamStatus.outline, he]

theorem outline_status? (c : Channel) :
    (k.outline seen).status? c = (k.status? c).map .outline := by
  rw [status?, status?, Option.map_map]
  exact congrArg (Option.map · _) (funext (k.outline_statusOf seen c))

theorem outline_list : (k.outline seen).list = k.list.map .outline := by
  rw [list, list, List.map_map]
  exact congrArg (List.map · _) (funext fun p => k.outline_statusOf seen p.1 p.2)

/-! ### Serving a request -/

theorem outline_serve_state (r : Request) :
    (k.serve r).state.outline seen = ((k.outline seen).serve r).state := by
  cases r with
  | start c s => simp only [serve, outline_start]; rfl
  | stop c => simp only [serve, outline_stop]; rfl
  | stopAll => simp only [serve, outline_stopAll]; rfl
  | shutdown => simp only [serve, drain, outline_stopAll]; rfl
  | _ => rfl

theorem outline_serve_trace (r : Request) :
    outlineTrace calls (k.serve r).trace =
      outlineTrace calls ((k.outline seen).serve r).trace := by
  cases r with
  | start c s => simp only [serve, outline_start]; rfl
  | stop c => simp only [serve, outline_stop]; rfl
  | stopAll => simp only [serve, outline_stopAll]; rfl
  | shutdown =>
    simp only [serve, drain, outline_stopAll, outlineTrace_append]
    rfl
  | _ => rfl

theorem outline_serve_answer {r : Request} {call : Call}
    (h : call.request? = some r) :
    (k.serve r).answer.map (Answer.outline call) =
      ((k.outline seen).serve r).answer.map (Answer.outline call) := by
  have houtline (s : StreamStatus) : s.outline.outline = s.outline := rfl
  cases r with
  | start c s => simp only [serve, outline_start]; rfl
  | stop c => simp only [serve, outline_stop]; rfl
  | stopAll => simp only [serve, outline_stopAll]; rfl
  | shutdown => rfl
  | status c =>
    cases call <;> simp [serve, Answer.outline, outline_status?, Function.comp_def, houtline]
  | list => cases call <;> simp [serve, Answer.outline, outline_list, houtline]
  | isRunning c =>
    have hcall : ∃ key, call = .isRunning key := by
      cases call <;> simp [Call.request?, Option.bind_eq_some_iff] at h ⊢
    obtain ⟨key, rfl⟩ := hcall
    rfl
  | _ => rfl

end Supervisor

/-! ### Moves -/

/-- What is left of a move: processes do not end, and what is not to be seen of the courses in
a script is left out. -/
def Move.outline? (seen : Bool) : Move → Option Move
  | tell .. | settle => none
  | script launches => some (script (launches.map (.outline seen)))
  | m => some m

namespace Supervisor

variable (seen : Bool) (k : Supervisor Script) {calls : List Call}

theorem outline_announce (call : Call) :
    (k.announce call).outline seen = (k.outline seen).announce call := by
  cases call with
  | shutdown => exact k.outline_fireAll seen
  | _ => rfl

theorem outline_tell (i : Nat) (collected : Collected) :
    (k.tell i collected).state.outline false = k.outline false := by
  unfold tell
  split
  · have hp : (k.processes.modify i (.tell collected)).map (Process.outline false) =
        k.processes.map (.outline false) := by
      refine List.ext_getElem? fun j => ?_
      simp only [List.getElem?_map, List.getElem?_modify]
      cases k.processes[j]? with
      | none => rfl
      | some p => by_cases h : i = j <;> simp [h, Process.tell, Process.outline, Course.outline]
    simp [outline, hp]
  · rfl

theorem outline_settle :
    (k.settle 0).state.outline seen = k.outline seen := by
  simp [settle, outline, Process.outline_settle, Function.comp_def]

theorem outline_guardStep (call : GuardCall) :
    (k.guardStep call).1.outline seen = ((k.outline seen).guardStep call).1 ∧
      (k.guardStep call).2.outline = ((k.outline seen).guardStep call).2.outline := by
  have houtline (s : StreamStatus) : s.outline.outline = s.outline := rfl
  cases call with
  | cancel c =>
    have hr : (k.outline seen).registry = k.registry := rfl
    simp only [guardStep, hr]
    split
    · exact ⟨k.outline_fire seen _, rfl⟩
    · exact ⟨rfl, rfl⟩
  | get c | delete c | set c s sink =>
    refine ⟨rfl, ?_⟩
    simp [guardStep, StepAnswer.outline, outline_status?, Function.comp_def, houtline]
  | drain =>
    refine ⟨rfl, ?_⟩
    simp [guardStep, StepAnswer.outline, outline_list, houtline]
  | len => exact ⟨rfl, rfl⟩

theorem outline_move {m : Move}
    (h : seen = true → ∀ i collected, m ≠ .tell i collected) :
    (k.move m).1.outline seen = (k.outline seen).after (m.outline? seen).toList := by
  cases m with
  | issue n call => exact k.outline_announce seen call
  | serve n r => exact k.outline_serve_state seen r
  | script launches => simp [move, Move.outline?, outline, Script.append]
  | tell i collected =>
    cases seen with
    | true => exact (h rfl i collected rfl).elim
    | false => exact k.outline_tell i collected
  | guard call => exact (k.outline_guardStep seen call).1
  | settle => exact k.outline_settle seen

theorem outline_after {ms : List Move}
    (h : seen = true → ∀ i collected, .tell i collected ∉ ms) :
    (k.after ms).outline seen = (k.outline seen).after (ms.filterMap (Move.outline? seen)) := by
  induction ms generalizing k with
  | nil => rfl
  | cons m ms ih =>
    have hm := k.outline_move seen (m := m) fun hs i collected hm => h hs i collected (by simp [hm])
    have hms := ih (k.move m).1 fun hs i collected hm => h hs i collected (by simp [hm])
    rw [after_cons, hms, hm]
    cases hd : m.outline? seen <;> simp [hd]

theorem outlineTrace_answered {n : Nat} {call : Call} (hn : calls[n]? = some call)
    (a : Option Answer) : outlineTrace calls (a.map (.answered n)).toList =
      if call = .shutdown then []
      else ((a.map (Answer.outline call)).map (.answered n)).toList := by
  cases a with
  | none => simp [outlineTrace]
  | some a => split <;> simp [outlineTrace, Happening.outline?, *]

theorem outlineTrace_settle :
    outlineTrace calls (k.settle 0).trace = [] := by
  refine List.filterMap_eq_nil_iff.mpr fun e he => ?_
  obtain ⟨p, -, hp⟩ := List.mem_filterMap.mp he
  obtain ⟨event, -, rfl⟩ := Option.map_eq_some_iff.mp hp
  rfl

theorem outline_move_trace {m : Move} (hm : m.Numbered calls) :
    outlineTrace calls (k.move m).2 =
      outlineTrace calls ((k.outline seen).trace (m.outline? seen).toList) := by
  cases m with
  | issue n call =>
    have hn : calls[n]? = some call := hm
    cases call with
    | pendingReapers =>
      simp [move, Move.outline?, announce, check, outlineTrace, Happening.outline?, hn,
        Answer.outline]
    | _ =>
      simp only [Move.outline?, Option.toList_some, trace_cons, trace_nil, List.append_nil]
      rfl
  | serve n r =>
    obtain ⟨call, hn, ha⟩ := hm
    simp only [move, Move.outline?, Option.toList_some, trace_cons, trace_nil, List.append_nil,
      outlineTrace_append, outlineTrace_answered hn,
      k.outline_serve_answer seen (Call.asks_iff.mp ha)]
    rw [k.outline_serve_trace seen]
  | settle => exact k.outlineTrace_settle
  | _ => rfl

theorem outline_trace {ms : List Move}
    (h : seen = true → ∀ i collected, .tell i collected ∉ ms) (hms : ∀ m ∈ ms, m.Numbered calls) :
    outlineTrace calls (k.trace ms) =
      outlineTrace calls ((k.outline seen).trace (ms.filterMap (Move.outline? seen))) := by
  induction ms generalizing k with
  | nil => rfl
  | cons m ms ih =>
    obtain ⟨hm, hms⟩ := List.forall_mem_cons.mp hms
    have htells : seen = true → ∀ i collected, m ≠ .tell i collected :=
      fun hs i collected hm => h hs i collected (by simp [hm])
    have hrest := ih (k.move m).1 (fun hs i collected hm => h hs i collected (by simp [hm])) hms
    rw [trace_cons, outlineTrace_append, hrest, k.outline_move_trace seen hm,
      k.outline_move seen htells, ← outlineTrace_append, ← trace_append]
    cases hd : m.outline? seen <;> simp [hd]

end Supervisor
end StreamSupervisor
