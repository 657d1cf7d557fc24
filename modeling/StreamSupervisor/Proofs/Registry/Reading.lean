import StreamSupervisor.Proofs.Lock.Turn
import StreamSupervisor.Proofs.Registry.Custody

/-! # The ways of reading a registry agree

A registry can be asked what a channel shows, for a list of everything shown, and how much there
is. All these answers follow from what the single channels show, and whoever asks changes nothing.
The same holds of a bare registry, of one under a supervisor, and of one that is held.
-/

namespace StreamSupervisor

/-- What a registry has to say, to each way of reading it. -/
structure Readings where
  status : Channel → Option StreamStatus
  isRunning : Channel → Bool
  list : List StreamStatus
  contains : Channel → Bool
  len : Nat
  isEmpty : Bool

namespace Readings

/-- The ways of reading say the same: what is listed, in ascending order of the channels, is what
the single channels show, and so is all else that is told. -/
structure Agree (r : Readings) : Prop where
  channel : ∀ c s, r.status c = some s → s.channel = c
  ascending : r.list.Pairwise fun s t => s.channel < t.channel
  listed : ∀ s, s ∈ r.list ↔ ∃ c, r.status c = some s
  isRunning : ∀ c, r.isRunning c = true ↔ ∃ s, r.status c = some s ∧ s.isStale = false
  contains : ∀ c, r.contains c = true ↔ r.status c ≠ none
  length : r.len = r.list.length
  counted : r.len = (Channel.all.filter r.contains).length
  isEmpty : r.isEmpty = true ↔ r.len = 0

/-- What there is to say if this is what the single channels show. -/
def ofStatus (status : Channel → Option StreamStatus) : Readings where
  status := status
  isRunning c := (status c).any (!·.isStale)
  list := Channel.all.filterMap status
  contains c := (status c).isSome
  len := (Channel.all.filterMap status).length
  isEmpty := (Channel.all.filterMap status).isEmpty

theorem agree_ofStatus {status : Channel → Option StreamStatus}
    (h : ∀ c s, status c = some s → s.channel = c) : (ofStatus status).Agree where
  channel := h
  ascending := by
    rw [ofStatus, List.pairwise_filterMap]
    refine Channel.all_pairwise.imp fun {c d} hcd s hs t ht => ?_
    rw [h c s hs, h d t ht]
    exact hcd
  listed s := by simp [ofStatus, List.mem_filterMap]
  isRunning c := by simp [ofStatus, Option.any_eq_true]
  contains c := by simp [ofStatus, Option.isSome_iff_ne_none]
  length := rfl
  counted := by
    simp only [ofStatus, List.length_filterMap_eq_countP, List.countP_eq_length_filter]
  isEmpty := by simp [ofStatus, List.isEmpty_iff]

def onKey (key : String) (answer : Channel → Answer) : Answer :=
  match Channel.ofKey? key with
  | some c => answer c
  | none => .refused (.invalidChannel key)

def answer? (r : Readings) : Call → Option Answer
  | .status key => some (onKey key fun c => .status (r.status c))
  | .isRunning key => some (onKey key fun c => .flag (r.isRunning c))
  | .list => some (.statuses r.list)
  | .contains c => some (.flag (r.contains c))
  | .len => some (.count r.len)
  | .isEmpty => some (.flag r.isEmpty)
  | _ => none

def guardAnswer? (r : Readings) : GuardCall → Option StepAnswer
  | .get c => some (.status (r.status c))
  | .len => some (.lenEmpty r.len r.isEmpty)
  | _ => none

def reply? (r : Readings) : Ledger.Step → Option Ledger.Reply
  | .status c => some (.status (r.status c))
  | .contains c => some (.flag (r.contains c))
  | .len => some (.count r.len)
  | .isEmpty => some (.flag r.isEmpty)
  | .snapshot => some (.statuses r.list)
  | .guardLen => some (.lenEmpty r.len r.isEmpty)
  | _ => none

end Readings

/-! ### A supervisor's registry -/

namespace Supervisor

variable {ℓ : Type}

theorem list_eq_filterMap (k : Supervisor ℓ) : k.list = Channel.all.filterMap k.status? := by
  simp only [list, Slots.toList_eq_walk_all, Slots.walk, List.map_filterMap, Option.map_map]
  rfl

def readings (k : Supervisor ℓ) : Readings where
  status := k.status?
  isRunning := k.isRunning
  list := k.list
  contains := k.registry.contains
  len := k.registry.size
  isEmpty := k.registry.isEmpty

theorem readings_eq (k : Supervisor ℓ) : k.readings = .ofStatus k.status? := by
  have hlen : k.registry.size = (Channel.all.filterMap k.status?).length := by
    rw [← list_eq_filterMap, list, List.length_map, Slots.size]
  have hempty : k.registry.isEmpty = (Channel.all.filterMap k.status?).isEmpty := by
    rw [← list_eq_filterMap, list, List.isEmpty_map, Slots.isEmpty]
  have hcontains : k.registry.contains = fun c => (k.status? c).isSome :=
    funext fun c => (k.status?_isSome c).symm
  simp only [readings, Readings.ofStatus, hlen, hempty, hcontains, list_eq_filterMap]
  rfl

theorem agree_readings (k : Supervisor ℓ) : k.readings.Agree := by
  rw [readings_eq]
  refine Readings.agree_ofStatus fun c s hs => ?_
  obtain ⟨e, -, rfl⟩ := Option.map_eq_some_iff.mp hs
  rfl

theorem read_cases [Launcher ℓ] {k : Supervisor ℓ} {call : Call} {a : Answer}
    (h : k.readings.answer? call = some a) :
    call ≠ .shutdown ∧ k.check call = .answered a ∨
      ∃ r, call.request? = some r ∧ k.serve r = ⟨k, [], some a⟩ := by
  have onKey {key : String} {answer : Channel → Answer} {request : Channel → Request}
      (ha : Readings.onKey key answer = a)
      (hserve : ∀ c, k.serve (request c) = ⟨k, [], some (answer c)⟩) :
      Admission.onChannel key (fun c => .ok (request c)) = .answered a ∨
        ∃ r, (Channel.ofKey? key).map request = some r ∧ k.serve r = ⟨k, [], some a⟩ := by
    subst ha
    cases hkey : Channel.ofKey? key with
    | none => exact .inl (by
        simp [Admission.onChannel, Channel.ofKey, Readings.onKey, hkey, bind, Except.bind])
    | some c => exact .inr ⟨request c, rfl, by simp [hserve, Readings.onKey, hkey]⟩
  cases call with
  | status key =>
    exact (onKey (Option.some.inj h) fun _ => rfl).imp_left fun hc => ⟨by simp, hc⟩
  | isRunning key =>
    exact (onKey (Option.some.inj h) fun _ => rfl).imp_left fun hc => ⟨by simp, hc⟩
  | list | contains _ | len | isEmpty =>
    obtain rfl := Option.some.inj h
    exact .inr ⟨_, rfl, rfl⟩
  | _ => cases h

end Supervisor

/-! ### A bare registry -/

namespace Ledger

def readings (l : Ledger) : Readings :=
  { Readings.ofStatus l.status? with
    list := l.snapshot
    contains := l.current.contains
    len := l.current.size
    isEmpty := l.current.isEmpty }

variable {l : Ledger}

theorem Lodged.isSome_status? (hl : l.Lodged) (c : Channel) :
    (l.status? c).isSome = l.current.contains c := by
  rw [status?, Option.isSome_map, Slots.contains, ← hl.map_shown? c, Option.isSome_map]

theorem Lodged.readings_eq (hl : l.Lodged) : l.readings = .ofStatus l.status? := by
  have hcontains : l.current.contains = fun c => (l.status? c).isSome :=
    funext fun c => (hl.isSome_status? c).symm
  have hlen : l.current.size = l.snapshot.length := by
    simp only [snapshot_eq_filterMap, Slots.size, Slots.toList_eq_walk_all, Slots.walk,
      List.length_filterMap_eq_countP, Option.isSome_map, hl.isSome_status?, Slots.contains]
  have hempty : l.current.isEmpty = l.snapshot.isEmpty := by
    rw [Slots.isEmpty, Bool.eq_iff_iff, List.isEmpty_iff_length_eq_zero,
      List.isEmpty_iff_length_eq_zero, ← hlen, Slots.size]
  simp only [readings, Readings.ofStatus, hcontains, hlen, hempty, snapshot_eq_filterMap]

theorem Lodged.agree_readings (hl : l.Lodged) : l.readings.Agree := by
  rw [hl.readings_eq]
  refine Readings.agree_ofStatus fun c s hs => ?_
  obtain ⟨⟨i, h⟩, hshown, rfl⟩ := Option.map_eq_some_iff.mp hs
  exact hl.channel_of_shown? hshown

theorem step_of_read {s : Step} {a : Reply} (h : l.readings.reply? s = some a) :
    l.step s = (l, a) := by
  cases s with
  | status _ | contains _ | len | isEmpty | snapshot | guardLen =>
    obtain rfl := Option.some.inj h
    rfl
  | _ => cases h

end Ledger

namespace Session

open Supervisor

theorem step_hold (g : Settings) (steps : List Step) :
    let x := (fresh g).run steps
    x.step .hold = ⟨{ x with held := true }, [], .done⟩ := by
  intro x
  have hsettle : ({ x with held := true } : Session Script).settle 0 = _ :=
    settle_of_rest g steps rfl rfl
  simp only [step, act, hsettle, List.append_nil]

theorem step_guard_of_read (g : Settings) (steps : List Step) {call : GuardCall} {a : StepAnswer}
    (h : ((fresh g).run steps).supervisor.readings.guardAnswer? call = some a) :
    let y : Session Script := { (fresh g).run steps with held := true }
    y.step (.guard call) = ⟨y, [], a⟩ := by
  intro y
  have hguard : y.supervisor.guardStep call = (y.supervisor, a) := by
    cases call with
    | get c | len =>
      obtain rfl := Option.some.inj h
      rfl
    | _ => cases h
  have hact : y.act (.guard call) = ⟨y, [], a⟩ := by
    simp only [act, hguard]
    rfl
  have hsettle : y.settle 0 = _ := settle_of_rest g steps rfl rfl
  simp only [step, hact, hsettle, List.append_nil]

theorem step_of_read (g : Settings) (steps : List Step) {call : Call} {a : Answer}
    (hheld : ((fresh g).run steps).held = false)
    (h : ((fresh g).run steps).supervisor.readings.answer? call = some a) :
    let x := (fresh g).run steps
    x.step (.call call) = ⟨{ x with issued := x.issued + 1 }, [.answered x.issued a], .none⟩ := by
  intro x
  rcases read_cases h with ⟨hcall, hc⟩ | ⟨r, hr, hserve⟩
  · exact step_of_answered g steps hcall hc
  · have hasking : call.Asking := by
      refine ⟨?_, by rw [hr]; rfl⟩
      rintro rfl
      cases h
    have hmove : x.supervisor.move (.serve x.issued r) =
        (x.supervisor, [.answered x.issued a]) := by
      simp only [Supervisor.move, x, hserve, Option.map_some, Option.toList_some, List.nil_append]
    have hserves : serves x.issued [call] = [.serve x.issued r] := serves_cons hr []
    have hsame : x.supervisor.after (serves x.issued [call]) = x.supervisor := by
      rw [hserves, after_cons, hmove, after_nil]
    obtain ⟨hstate, htrace⟩ := step_of_unchanged g steps hasking hheld hsame
    rw [hserves, Supervisor.trace_cons, hmove, Supervisor.trace_nil, List.append_nil] at htrace
    exact congr (congrArg₂ Turn.mk hstate htrace) rfl

/-- **The ways of reading a registry agree.** In any state of a session there is one account of
its registry, whose parts agree, and every read is told its part of it. With the registry free,
the calls that ask for a status, whether a stream is running, for the list, for what it contains
and how much, are told so at once; a key that names no channel is refused as it was given. To hold
the registry and to read it then tells the same. Nobody who reads changes anything but the count
of the calls, and neither does who asks whether the supervisor was shut down, or how many processes
are alive. So it is with a bare registry after any steps. -/
theorem all_views_agree (g : Settings) (steps : List Step) (bareSteps : List Ledger.Step) :
    (let x := (fresh g).run steps
      let told (a : Answer) : Turn (Session Script) StepAnswer :=
        ⟨{ x with issued := x.issued + 1 }, [.answered x.issued a], .none⟩
      let y := (x.step .hold).state
      ∃ r : Readings, r.Agree ∧
        (x.held = false → ∀ call a, r.answer? call = some a → x.step (.call call) = told a) ∧
        x.step (.call .isShutDown) = told (.flag x.supervisor.shutDown) ∧
        x.step (.call .pendingReapers) = told (.count x.supervisor.pending) ∧
        y = { x with held := true } ∧
        ∀ call a, r.guardAnswer? call = some a → y.step (.guard call) = ⟨y, [], a⟩) ∧
    let l := ({} : Ledger).run bareSteps
    ∃ r : Readings, r.Agree ∧
      (∀ s a, r.reply? s = some a → l.step s = (l, a)) ∧
      (∀ c, ∃ h, l.step (.get c) = (l, .handle h) ∧ h.map Handle.status = r.status c) ∧
      ∀ i, (l.step (.removedStatus i)).1 = l := by
  refine ⟨?_, ?_⟩
  · intro x told y
    have hy : y = { x with held := true } := congrArg Turn.state (step_hold g steps)
    refine ⟨x.supervisor.readings, x.supervisor.agree_readings,
      fun hheld call a => step_of_read g steps hheld, step_of_answered g steps nofun rfl,
      step_of_answered g steps nofun rfl, hy, fun call a h => ?_⟩
    rw [hy]
    exact step_guard_of_read g steps h
  · intro l
    have hl : l.Lodged := Ledger.lodged_empty.run bareSteps
    refine ⟨l.readings, hl.agree_readings, fun s a => Ledger.step_of_read,
      fun c => ⟨_, rfl, ?_⟩, fun i => rfl⟩
    rw [Option.map_map]
    rfl

/-- The process on one channel has ended and its entry is stale, and the other channel shows a
guest. -/
theorem all_views_agree_stale :
    let spec : StreamSpec := { source := "tone" }
    let steps : List Step := [.script [.succeed .numbered (.after 0 (.status (.exited 3)))],
      .call (.start "audio" spec), .hold, .guard (.set .video spec "sink"), .release]
    let x := (fresh {}).run steps
    x.held = false ∧ ∃ r : Readings, r.Agree ∧ r.len = 2 ∧
      r.isRunning .audio = false ∧ r.isRunning .video = true ∧
      x.step (.call (.isRunning " AUDIO\t")) =
        ⟨{ x with issued := x.issued + 1 }, [.answered x.issued (.flag false)], .none⟩ ∧
      x.step (.call (.status "radio")) =
        ⟨{ x with issued := x.issued + 1 },
          [.answered x.issued (.refused (.invalidChannel "radio"))], .none⟩ := by
  intro spec steps x
  have hheld : x.held = false := by decide
  obtain ⟨⟨r, hagree, hread, -⟩, -⟩ := all_views_agree {} steps []
  have told (call : Call) {a b : Answer} (ha : r.answer? call = some a)
      (hb : (x.step (.call call)).trace = [.answered 1 b]) : a = b := by
    rw [hread hheld call a ha] at hb
    exact (Happening.answered.inj (List.cons.inj hb).1).2
  have hlen : Answer.count r.len = .count 2 := told .len rfl (by decide)
  have haudio : Answer.flag (r.isRunning .audio) = .flag false :=
    told (.isRunning Channel.audio.name) (by simp [Readings.answer?, Readings.onKey]) (by decide)
  have hvideo : Answer.flag (r.isRunning .video) = .flag true :=
    told (.isRunning Channel.video.name) (by simp [Readings.answer?, Readings.onKey]) (by decide)
  refine ⟨hheld, r, hagree, Answer.count.inj hlen, Answer.flag.inj haudio, Answer.flag.inj hvideo,
    hread hheld _ _ ?_, hread hheld _ _ ?_⟩
  · have hkey : Channel.ofKey? " AUDIO\t" = some .audio := by decide
    simp [Readings.answer?, Readings.onKey, hkey, haudio]
  · have hkey : Channel.ofKey? "radio" = none := by decide
    simp [Readings.answer?, Readings.onKey, hkey]

end Session
end StreamSupervisor
