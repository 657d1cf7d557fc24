import StreamSupervisor.Proofs.Ending.Course
import StreamSupervisor.Proofs.Supervisor.Failure

/-! # One channel alone

What a supervisor has to do with one channel is the entry there, and the processes that were
launched there, numbered among themselves, with the pids that the script gives them by these
numbers. A request on the channel does the same to this much as it does to the whole, and a
request on the other channel does nothing to it.
-/

namespace StreamSupervisor

section Filter

variable {α : Type} {P : α → Bool} {f : α → α} {l : List α} {i : Nat} {a : α}

theorem getElem?_filter_countP (h : l[i]? = some a) (ha : P a = true) :
    (l.filter P)[(l.take i).countP P]? = some a := by
  induction l generalizing i with
  | nil => simp at h
  | cons b l ih =>
    cases i with
    | zero =>
      obtain rfl : b = a := by simpa using h
      simp [ha]
    | succ i =>
      have hrest := ih (i := i) (by simpa using h)
      cases hb : P b <;> simp [hb, hrest]

theorem filter_modify (h : l[i]? = some a) (ha : P a = true) (hf : ∀ b, P (f b) = P b) :
    (l.modify i f).filter P = (l.filter P).modify ((l.take i).countP P) f := by
  induction l generalizing i with
  | nil => simp at h
  | cons b l ih =>
    cases i with
    | zero =>
      obtain rfl : b = a := by simpa using h
      simp [ha, hf]
    | succ i =>
      have hrest := ih (i := i) (by simpa using h)
      cases hb : P b <;> simp [hb, hrest]

theorem filter_modify_of_not (h : l[i]? = some a) (ha : P a = false) (hf : P (f a) = false) :
    (l.modify i f).filter P = l.filter P := by
  induction l generalizing i with
  | nil => simp at h
  | cons b l ih =>
    cases i with
    | zero =>
      obtain rfl : b = a := by simpa using h
      simp [ha, hf]
    | succ i =>
      have hrest := ih (i := i) (by simpa using h)
      cases hb : P b <;> simp [hb, hrest]

theorem mapIdx_modify {g : Nat → α → α} (hg : ∀ j a, g j (f a) = f (g j a)) :
    (l.modify i f).mapIdx g = (l.mapIdx g).modify i f := by
  refine List.ext_getElem? fun j => ?_
  simp only [List.getElem?_mapIdx, List.getElem?_modify]
  cases l[j]? with
  | none => rfl
  | some a => by_cases h : i = j <;> simp [h, hg]

end Filter

def Process.renumber (pids : Nat → ScriptedPid) (j : Nat) (p : Process) : Process :=
  { p with pid := (pids j).resolve j }

def Entry.renumber (f : Nat → Nat) (pids : Nat → ScriptedPid) (e : Entry) : Entry :=
  match e.owner with
  | .process i => { e with pid := (pids (f i)).resolve (f i), owner := .process (f i) }
  | .guest _ => e

section Same

variable {R S : Option Nat → Option Nat → Prop}

/-- Two answers are the same, but for a pid. -/
inductive Answer.Same (R : Option Nat → Option Nat → Prop) : Answer → Answer → Prop
  | refl (a : Answer) : Same R a a
  | status {s : StreamStatus} {pid : Option Nat} : R s.pid pid →
      Same R (.status (some s)) (.status (some { s with pid := pid }))

theorem Answer.Same.mono {a b : Answer} (h : a.Same R b) (hR : ∀ p q, R p q → S p q) :
    a.Same S b := by
  cases h with
  | refl => exact .refl a
  | status h => exact .status (hR _ _ h)

inductive Happening.Same (R : Option Nat → Option Nat → Prop) : Happening → Happening → Prop
  | refl (e : Happening) : Same R e e
  | answered {n : Nat} {a b : Answer} : a.Same R b → Same R (.answered n a) (.answered n b)

abbrev SameTrace (R : Option Nat → Option Nat → Prop) : List Happening → List Happening → Prop :=
  List.Forall₂ (Happening.Same R)

variable {trace trace' later later' : List Happening}

theorem SameTrace.refl (trace : List Happening) : SameTrace R trace trace :=
  List.forall₂_same.mpr fun e _ => .refl e

theorem SameTrace.mono (h : SameTrace R trace trace') (hR : ∀ p q, R p q → S p q) :
    SameTrace S trace trace' := by
  refine h.imp fun e e' he => ?_
  cases he with
  | refl => exact .refl e
  | answered ha => exact .answered (ha.mono hR)

theorem SameTrace.append (h : SameTrace R trace trace') (hl : SameTrace R later later') :
    SameTrace R (trace ++ later) (trace' ++ later') :=
  List.rel_append h hl

theorem SameTrace.launches (h : SameTrace R trace trace') :
    trace'.filterMap Happening.launch? = trace.filterMap Happening.launch? := by
  induction h with
  | nil => rfl
  | cons he _ ih => cases he <;> simp [List.filterMap_cons, Happening.launch?, ih]

theorem SameTrace.answers (h : SameTrace R trace trace') :
    List.Forall₂ (fun p q => q.1 = p.1 ∧ p.2.Same R q.2)
      (trace.filterMap Happening.answer?) (trace'.filterMap Happening.answer?) := by
  refine List.rel_filterMap (fun e e' he => ?_) h
  cases he with
  | refl => cases e <;> first | exact .none | exact .some ⟨rfl, .refl _⟩
  | answered ha => exact .some ⟨rfl, ha⟩

end Same

def Request.channel? : Request → Option Channel
  | start c _ | stop c | status c | isRunning c | contains c => some c
  | list | stopAll | shutdown | len | isEmpty => none

def LaunchRecord.own (r : LaunchRecord) : LaunchRecord := { r with firedBefore := [] }

/-- What a happening has to do with a channel: launches there, and answers to some calls, which
get new numbers. -/
def Happening.on? (c : Channel) (f : Nat → Option Nat) : Happening → Option Happening
  | launched r => if r.channel = c then some (launched r.own) else none
  | answered n a => (f n).map (answered · a)
  | _ => none

def traceOn (c : Channel) (f : Nat → Option Nat) (trace : List Happening) : List Happening :=
  trace.filterMap (Happening.on? c f)

section Traces

variable {c : Channel} {f : Nat → Option Nat} {trace trace' : List Happening}

@[simp] theorem traceOn_nil : traceOn c f [] = [] := rfl

@[simp] theorem traceOn_cons (e : Happening) :
    traceOn c f (e :: trace) = (e.on? c f).toList ++ traceOn c f trace := by
  cases h : e.on? c f <;> simp [traceOn, h]

@[simp] theorem traceOn_append :
    traceOn c f (trace ++ trace') = traceOn c f trace ++ traceOn c f trace' :=
  List.filterMap_append

@[simp] theorem traceOn_logged (events : List Event) : traceOn c f (events.map .logged) = [] := by
  simp [traceOn, List.filterMap_map, Function.comp_def, Happening.on?]

theorem answers_traceOn (trace : List Happening) :
    (traceOn c f trace).filterMap Happening.answer? =
      (trace.filterMap Happening.answer?).filterMap fun p => (f p.1).map (·, p.2) := by
  simp only [traceOn, List.filterMap_filterMap]
  refine List.filterMap_congr fun e _ => ?_
  cases e with
  | launched r =>
    simp only [Happening.on?]
    split <;> rfl
  | answered n a => cases hn : f n <;> simp [Happening.on?, Happening.answer?, hn]
  | _ => rfl

theorem launches_traceOn (trace : List Happening) :
    (traceOn c f trace).filterMap Happening.launch? =
      ((trace.filterMap Happening.launch?).filter fun r => r.channel = c).map LaunchRecord.own := by
  rw [← List.filterMap_eq_filter, List.map_filterMap, List.filterMap_filterMap, traceOn,
    List.filterMap_filterMap]
  refine List.filterMap_congr fun e _ => ?_
  cases e with
  | launched r =>
    by_cases hr : r.channel = c <;> simp [Happening.on?, Happening.launch?, Option.guard, hr]
  | answered n a => cases hn : f n <;> simp [Happening.on?, Happening.launch?, hn]
  | _ => rfl

end Traces

namespace Supervisor

variable {k k' : Supervisor Script} {c d : Channel} {i : Nat} {p q : Process} {e : Entry}
  {s : StreamSpec} {r : Request} {pids : Nat → ScriptedPid} {l : Script} {f g : Nat → Option Nat}

def Housed (k : Supervisor Script) : Prop :=
  ∀ c e, k.registry.get c = some e →
    ∃ i p, e.owner = .process i ∧ k.processes[i]? = some p ∧ e.Describes k.settings c p

theorem Housed.move {m : Move} (h : k.Housed) (hm : ∀ c s sink, m ≠ .guard (.set c s sink)) :
    (k.move m).1.Housed := by
  intro c e he
  rw [settings_move]
  rcases entry_of_move he with hk | ⟨s, sink, hs, -⟩ | ⟨n, s, rfl, hl⟩
  · obtain ⟨i, p, ho, hp, hd⟩ := h c e hk
    obtain ⟨q, hq, hev, -⟩ := process_move m hp
    exact ⟨i, q, ho, hq, hd.evolves hev⟩
  · exact (hm c s sink hs).elim
  · obtain ⟨-, ho, p, hp, hd⟩ := entry_of_start hl he
    exact ⟨_, p, ho, hp, hd⟩

theorem Housed.vacate (hk : k.Housed) (d : Channel) : (k.vacate d).Housed := by
  intro c e he
  have hne : c ≠ d := by
    rintro rfl
    simp [vacate_registry_get] at he
  rw [vacate_registry_get, if_neg hne] at he
  obtain ⟨i, p, ho, hp, hd⟩ := hk c e he
  obtain ⟨q, hq, hev, -⟩ := (k.withdrawn_vacate d).process hp
  exact ⟨i, q, ho, hq, (k.withdrawn_vacate d).settings ▸ hd.evolves hev⟩

/-! ### Numbers and pids -/

/-- The number of a process among those of a channel. -/
def rank (k : Supervisor Script) (c : Channel) (i : Nat) : Nat :=
  (k.processes.take i).countP (fun p => p.channel = c)

theorem rank_lt (hp : k.processes[i]? = some p) (hc : p.channel = c) :
    k.rank c i < k.rank c k.processes.length := by
  have h := getElem?_filter_countP (P := fun p => p.channel = c) hp (by simp [hc])
  have hlt := (List.getElem?_eq_some_iff.mp h).1
  rw [← List.countP_eq_length_filter] at hlt
  rwa [rank, rank, List.take_length]

theorem rank_eq_countP (k : Supervisor Script) (c : Channel) (i : Nat) :
    k.rank c i = ((k.processes.map (·.channel)).take i).countP (· = c) := by
  rw [rank, ← List.map_take, List.countP_map]
  rfl

theorem rank_eq (h : k.processes.map (·.channel) <+: k'.processes.map (·.channel))
    (hi : i ≤ k.processes.length) : k'.rank c i = k.rank c i := by
  obtain ⟨new, hnew⟩ := h
  rw [rank_eq_countP, rank_eq_countP, ← hnew, List.take_append_of_le_length (by simpa using hi)]

theorem channels_after (k : Supervisor Script) (ms : List Move) :
    k.processes.map (·.channel) <+: (k.after ms).processes.map (·.channel) := by
  have h := congrArg (List.map Prod.fst) (k.map_launch_after ms)
  rw [List.map_append, List.map_map, List.map_map] at h
  exact ⟨_, h.symm⟩

/-- Two pids are what the script gives to a process of a channel by its number, and by its number
among those of the channel. -/
def Renumbered (k : Supervisor Script) (c : Channel) (pid pid' : Option Nat) : Prop :=
  ∃ i p s, k.processes[i]? = some p ∧ p.channel = c ∧ pid = ScriptedPid.resolve i s ∧
    pid' = s.resolve (k.rank c i)

theorem Renumbered.mono (h : k.processes.map (·.channel) <+: k'.processes.map (·.channel))
    (pid pid' : Option Nat) (hr : k.Renumbered c pid pid') : k'.Renumbered c pid pid' := by
  obtain ⟨i, p, s, hp, hc, hpid, hpid'⟩ := hr
  have hlt := (List.getElem?_eq_some_iff.mp hp).1
  have hchannel : (k'.processes.map (·.channel))[i]? = some p.channel := by
    obtain ⟨new, hnew⟩ := h
    rw [← hnew, List.getElem?_append_left (by simpa using hlt), List.getElem?_map, hp]
    rfl
  rw [List.getElem?_map, Option.map_eq_some_iff] at hchannel
  obtain ⟨q, hq, hqp⟩ := hchannel
  exact ⟨i, q, s, hq, hqp.trans hc, hpid, by rw [hpid', rank_eq h (Nat.le_of_lt hlt)]⟩

/-- What the script gave to each process of a channel for a pid. -/
def Named (k : Supervisor Script) (c : Channel) (pids : Nat → ScriptedPid) : Prop :=
  ∀ i p, k.processes[i]? = some p → p.channel = c → p.pid = (pids (k.rank c i)).resolve i

theorem Named.renumbered (h : k.Named c pids) (hp : k.processes[i]? = some p)
    (hc : p.channel = c) :
    k.Renumbered c p.pid ((pids (k.rank c i)).resolve (k.rank c i)) :=
  ⟨i, p, _, hp, hc, h i p hp hc, rfl⟩

theorem Named.congr (h : k.Named c pids) (hk : k'.processes.map (fun p => (p.channel, p.pid)) =
    k.processes.map fun p => (p.channel, p.pid)) : k'.Named c pids := by
  have hchannels : k.processes.map (·.channel) = k'.processes.map (·.channel) := by
    simpa [List.map_map, Function.comp_def] using congrArg (List.map Prod.fst) hk.symm
  intro i q hq hc
  have hp : (k.processes.map fun p => (p.channel, p.pid))[i]? = some (q.channel, q.pid) := by
    rw [← hk, List.getElem?_map, hq]
    rfl
  rw [List.getElem?_map, Option.map_eq_some_iff] at hp
  obtain ⟨p, hp, hpq⟩ := hp
  obtain ⟨hpc, hpid⟩ := Prod.mk.inj hpq
  rw [← hpid, rank_eq (hchannels ▸ List.prefix_rfl)
    (Nat.le_of_lt (List.getElem?_eq_some_iff.mp hp).1)]
  exact h i p hp (hpc.trans hc)

theorem Named.evolves (h : k.Named c pids)
    (he : List.Forall₂ Process.Evolves k.processes k'.processes) : k'.Named c pids := by
  refine h.congr ?_
  generalize k.processes = ps at he ⊢
  generalize k'.processes = qs at he ⊢
  induction he with
  | nil => rfl
  | cons he _ ih => rw [List.map_cons, List.map_cons, he.channel, he.pid, ih]

theorem Named.vacate (h : k.Named c pids) (d : Channel) : (k.vacate d).Named c pids :=
  h.congr ((k.withdrawn_vacate d).map_processes fun _ => rfl)

theorem Named.update (h : k.Named c pids) (pid : ScriptedPid) :
    k.Named c (Function.update pids (k.rank c k.processes.length) pid) := by
  intro i p hp hc
  rw [Function.update_of_ne (Nat.ne_of_lt (rank_lt hp hc))]
  exact h i p hp hc

theorem Named.concat (h : k.Named c pids) (hk : k'.processes = k.processes ++ [q])
    (hq : q.channel = c →
      q.pid = (pids (k.rank c k.processes.length)).resolve k.processes.length) :
    k'.Named c pids := by
  intro i p hp hc
  have hi : i ≤ k.processes.length := by
    have := (List.getElem?_eq_some_iff.mp hp).1
    simp only [hk, List.length_append, List.length_singleton] at this
    omega
  rw [rank_eq (by simp [hk]) hi]
  rw [hk] at hp
  rcases Nat.lt_or_eq_of_le hi with hlt | rfl
  · rw [List.getElem?_append_left hlt] at hp
    exact h i p hp hc
  · obtain rfl : q = p := by simpa using hp
    exact hq hc

/-! ### What there is of a channel -/

/-- The entry of a channel, with its process numbered among those of the channel. -/
def entryOn (k : Supervisor Script) (c : Channel) (pids : Nat → ScriptedPid) : Option Entry :=
  (k.registry.get c).map (.renumber (k.rank c) pids)

def processesOn (k : Supervisor Script) (c : Channel) (pids : Nat → ScriptedPid) : List Process :=
  (k.processes.filter fun p => p.channel = c).mapIdx (.renumber pids)

/-- What a supervisor has to do with a channel, with a launcher of its own. -/
def alone (k : Supervisor Script) (c : Channel) (pids : Nat → ScriptedPid) (l : Script) :
    Supervisor Script where
  settings := k.settings
  launcher := l
  registry := ({} : Slots Entry).put c (k.entryOn c pids)
  processes := k.processesOn c pids
  shutDown := k.shutDown

@[simp] theorem alone_get (k : Supervisor Script) (c : Channel) (pids : Nat → ScriptedPid)
    (l : Script) : (k.alone c pids l).registry.get c = k.entryOn c pids := by
  simp [alone, Slots.get_put]

@[simp] theorem alone_contains (k : Supervisor Script) (c : Channel) (pids : Nat → ScriptedPid)
    (l : Script) :
    (k.alone c pids l).registry.contains c = k.registry.contains c := by
  simp [Slots.contains, entryOn]

theorem alone_launches (k : Supervisor Script) (c : Channel) (pids : Nat → ScriptedPid)
    (l : Script) (s : StreamSpec) :
    (k.alone c pids l).launches (.start c s) = k.launches (.start c s) := by
  rw [launches, launches, alone_contains]
  rfl

theorem length_processesOn (k : Supervisor Script) (c : Channel) (pids : Nat → ScriptedPid) :
    (k.processesOn c pids).length = k.rank c k.processes.length := by
  rw [processesOn, List.length_mapIdx, rank, List.take_length, List.countP_eq_length_filter]

theorem getElem?_processesOn (hp : k.processes[i]? = some p) (hc : p.channel = c) :
    (k.processesOn c pids)[k.rank c i]? = some (p.renumber pids (k.rank c i)) := by
  have h := getElem?_filter_countP (P := fun p => p.channel = c) hp (by simp [hc])
  rw [processesOn, List.getElem?_mapIdx, rank, h]
  rfl

theorem alone_status? (hk : k.Housed) (hn : k.Named c pids) :
    k.status? c = none ∧ (k.alone c pids l).status? c = none ∨
      ∃ s pid, k.status? c = some s ∧ (k.alone c pids l).status? c = some { s with pid := pid } ∧
        k.Renumbered c s.pid pid := by
  simp only [status?, alone_get, entryOn]
  cases he : k.registry.get c with
  | none => exact .inl ⟨rfl, rfl⟩
  | some e =>
    obtain ⟨i, p, ho, hp, hd⟩ := hk c e he
    have hexit : (k.alone c pids l).exit? (.process (k.rank c i)) = k.exit? (.process i) := by
      simp only [exit?, alone, getElem?_processesOn hp hd.channel, hp]
      rfl
    refine .inr ⟨k.statusOf c e, (pids (k.rank c i)).resolve (k.rank c i), rfl, ?_, ?_⟩
    · simp [statusOf, Entry.renumber, ho, hexit]
    · have hpid : (k.statusOf c e).pid = p.pid := hd.pid.symm
      rw [hpid]
      exact hn.renumbered hp hd.channel

theorem same_status (hk : k.Housed) (hn : k.Named c pids) :
    (Answer.status (k.status? c)).Same (k.Renumbered c)
      (.status ((k.alone c pids l).status? c)) := by
  rcases alone_status? (l := l) hk hn with ⟨h, h'⟩ | ⟨s, pid, h, h', hr⟩
  · rw [h, h']
    exact .refl _
  · rw [h, h']
    exact .status hr

theorem alone_isRunning (hk : k.Housed) (hn : k.Named c pids) :
    (k.alone c pids l).isRunning c = k.isRunning c := by
  rcases alone_status? (l := l) hk hn with ⟨h, h'⟩ | ⟨s, pid, h, h', -⟩
  · rw [isRunning, isRunning, h, h']
  · rw [isRunning, isRunning, h, h']
    rfl

theorem stop_state (k : Supervisor Script) (c : Channel) : (k.stop c).state = k.vacate c := by
  unfold stop vacate
  split <;> simp [*]

/-! ### The other channel -/

theorem entryOn_eq (hk : k.Housed) (hg : k'.registry.get c = k.registry.get c)
    (h : k.processes.map (·.channel) <+: k'.processes.map (·.channel)) :
    k'.entryOn c pids = k.entryOn c pids := by
  unfold entryOn
  rw [hg]
  cases he : k.registry.get c with
  | none => rfl
  | some e =>
    obtain ⟨i, p, ho, hp, -⟩ := hk c e he
    have hlt : i < k.processes.length := (List.getElem?_eq_some_iff.mp hp).1
    have hi : k'.rank c i = k.rank c i := rank_eq h (Nat.le_of_lt hlt)
    simp [Entry.renumber, ho, hi]

theorem alone_vacate_of_ne (hk : k.Housed) (hd : d ≠ c) :
    (k.vacate d).alone c pids l = k.alone c pids l := by
  have hg : (k.vacate d).registry.get c = k.registry.get c := by
    rw [vacate_registry_get, if_neg hd.symm]
  have hchannels : (k.vacate d).processes.map (·.channel) = k.processes.map (·.channel) :=
    (k.withdrawn_vacate d).map_processes fun _ => rfl
  have hentry : (k.vacate d).entryOn c pids = k.entryOn c pids :=
    entryOn_eq hk hg (hchannels ▸ List.prefix_rfl)
  have hprocesses : (k.vacate d).processes.filter (fun p => p.channel = c) =
      k.processes.filter fun p => p.channel = c := by
    unfold vacate
    split
    · rfl
    · rename_i e he
      obtain ⟨i, p, ho, hp, hpd⟩ := hk d e he
      have hpc : p.channel ≠ c := hpd.channel ▸ hd
      simp only [dismiss, ho, fire]
      exact filter_modify_of_not hp (by simp [hpc]) (by simp [Process.fire, hpc])
  simp only [alone, processesOn, hentry, hprocesses, (k.withdrawn_vacate d).settings,
    (k.withdrawn_vacate d).shutDown]

theorem alone_launch_of_ne (hk : k.Housed) (hn : k.Named c pids) (hd : d ≠ c) :
    (k.launch d s).state.alone c pids l = k.alone c pids l ∧
      (k.launch d s).state.Named c pids ∧ traceOn c f (k.launch d s).trace = [] := by
  have hcalled (args : List String) (failed : Bool) :
      (Happening.launched (k.launchRecord d args failed)).on? c f = none := by
    simp [Happening.on?, launchRecord, hd]
  have hlogged (e : Event) : (Happening.logged e).on? c f = none := rfl
  cases ha : (k.asked d s).child with
  | error fault =>
    rw [launch_of_error ha]
    exact ⟨rfl, hn, by simp [hcalled, hlogged]⟩
  | ok child =>
    rw [launch_of_ok ha]
    refine ⟨?_, hn.concat rfl fun h => (hd h).elim, by simp [hcalled, hlogged]⟩
    have hentry : (({ k with launcher := (k.asked d s).launcher } :
        Supervisor Script).install d s child).entryOn c pids = k.entryOn c pids :=
      entryOn_eq hk (by simp [install, Slots.get_set, hd]) (by simp [install])
    simp only [alone, hentry]
    simp [install, processesOn, hd]

theorem alone_serve_of_ne (hk : k.Housed) (hn : k.Named c pids) (hr : r.channel? = some d)
    (hd : d ≠ c) :
    (k.serve r).state.alone c pids l = k.alone c pids l ∧ (k.serve r).state.Named c pids ∧
      traceOn c f (k.serve r).trace = [] := by
  cases r with
  | start d' s =>
    obtain rfl := Option.some.inj hr
    simp only [serve]
    cases hl : k.launches (.start d' s) with
    | false =>
      obtain ⟨event, _, hs⟩ := start_of_not_launches hl
      rw [hs]
      exact ⟨rfl, hn, rfl⟩
    | true =>
      obtain ⟨events, hs⟩ := start_of_launches hl
      obtain ⟨halone, hnamed, htrace⟩ :=
        alone_launch_of_ne (s := s) (l := l) (f := f) (hk.vacate d') (hn.vacate d') hd
      rw [hs]
      exact ⟨halone.trans (alone_vacate_of_ne hk hd), hnamed, by simp [htrace]⟩
  | stop d' =>
    obtain rfl := Option.some.inj hr
    refine ⟨?_, ?_, ?_⟩
    · simp only [serve, stop_state, alone_vacate_of_ne hk hd]
    · simp only [serve, stop_state]
      exact hn.vacate d'
    · simp only [serve, stop]
      split <;> rfl
  | _ => first | exact ⟨rfl, hn, rfl⟩ | cases hr

/-! ### The channel itself -/

theorem alone_vacate (hk : k.Housed) :
    (k.alone c pids l).vacate c = (k.vacate c).alone c pids l := by
  have hregistry (a : Option Entry) :
      (({} : Slots Entry).put c a).erase c = ({} : Slots Entry).put c none := by
    cases c <;> rfl
  cases he : k.registry.get c with
  | none => simp [vacate, entryOn, he]
  | some e =>
    obtain ⟨i, p, ho, hp, hd⟩ := hk c e he
    have hprocesses : ((k.processes.modify i .fire).filter fun p => p.channel = c).mapIdx
        (.renumber pids) = (k.processesOn c pids).modify (k.rank c i) .fire := by
      rw [filter_modify (f := Process.fire) hp (by simp [hd.channel]) fun _ => rfl]
      exact mapIdx_modify fun _ _ => rfl
    simp only [vacate, alone_get, he, entryOn, Option.map_some]
    simp only [alone, entryOn, dismiss, hregistry, Slots.get_erase_self, Option.map_none,
      Entry.renumber, ho, fire]
    rw [← hprocesses]
    rfl

theorem own_launchRecord_alone (args : List String) (failed : Bool) :
    ((k.alone c pids l).launchRecord c args failed).own = (k.launchRecord c args failed).own := by
  simp only [LaunchRecord.own, launchRecord, alone_contains]
  rfl

theorem asked_of_next {pid : ScriptedPid} {course : Course}
    (h : k.launcher.next = .succeed pid course) :
    (k.asked c s).child = .ok ⟨pid.resolve k.processes.length, course⟩ := by
  simp [asked, Launcher.launch, h]

theorem alone_install (pid : ScriptedPid) (course : Course) :
    (k.alone c pids l).install c s ⟨pid.resolve (k.rank c k.processes.length), course⟩ =
      (k.install c s ⟨pid.resolve k.processes.length, course⟩).alone c
        (Function.update pids (k.rank c k.processes.length) pid) l := by
  set pids' := Function.update pids (k.rank c k.processes.length) pid with hpids
  set k' := k.install c s ⟨pid.resolve k.processes.length, course⟩ with hk
  have hlength := k.length_processesOn c pids
  have hnew : pids' (k.rank c k.processes.length) = pid := by simp [hpids]
  have hrank : k'.rank c k.processes.length = k.rank c k.processes.length :=
    rank_eq (by simp [hk, install]) (Nat.le_refl _)
  have hentry : k'.entryOn c pids' = some
      { pid := pid.resolve (k.rank c k.processes.length), spec := s,
        sink := outputSink k.settings c s, owner := .process (k.rank c k.processes.length) } := by
    have hget : k'.registry.get c = some
        { pid := pid.resolve k.processes.length, spec := s, sink := outputSink k.settings c s,
          owner := .process k.processes.length } := by
      simp [hk, install]
    simp [entryOn, hget, Entry.renumber, hrank, hnew]
  have hold : k.processesOn c pids' = k.processesOn c pids := by
    refine List.mapIdx_eq_mapIdx_iff.mpr fun j hj => ?_
    rw [processesOn, List.length_mapIdx] at hlength
    rw [Process.renumber, hpids, Function.update_of_ne (hlength ▸ Nat.ne_of_lt hj)]
    rfl
  have hprocesses : k'.processesOn c pids' = k.processesOn c pids ++
      [{ channel := c, arguments := arguments k.settings c s,
         pid := pid.resolve (k.rank c k.processes.length), course := course,
         fired := k.shutDown }] := by
    rw [← hold, processesOn, ← hnew]
    rw [processesOn, List.length_mapIdx] at hlength
    simp [hk, install, processesOn, Process.renumber, hlength]
  have hregistry (a b : Option Entry) :
      (({} : Slots Entry).put c a).put c b = ({} : Slots Entry).put c b := by
    cases c <;> rfl
  simp only [alone, install, Slots.set, hentry, hprocesses, hregistry, hlength]
  rfl

theorem alone_launch (hn : k.Named c pids) (hnext : l.next = k.launcher.next) :
    (∃ pids' l', ((k.alone c pids l).launch c s).state = (k.launch c s).state.alone c pids' l' ∧
      (k.launch c s).state.Named c pids') ∧
      ((k.alone c pids l).launch c s).answer = (k.launch c s).answer ∧
      traceOn c g ((k.alone c pids l).launch c s).trace = traceOn c f (k.launch c s).trace := by
  have hcalled (k : Supervisor Script) (f : Nat → Option Nat) (args : List String) (failed : Bool) :
      (Happening.launched (k.launchRecord c args failed)).on? c f =
        some (.launched (k.launchRecord c args failed).own) := by
    simp [Happening.on?, launchRecord]
  have hlogged (e : Event) (f : Nat → Option Nat) : (Happening.logged e).on? c f = none := rfl
  have hsettings : (k.alone c pids l).settings = k.settings := rfl
  cases hl : k.launcher.next with
  | fail fault =>
    rw [launch_of_error (asked_eq_error_iff.mpr hl),
      launch_of_error (asked_eq_error_iff.mpr (hnext.trans hl))]
    exact ⟨⟨_, _, rfl, hn⟩, rfl, by simp [hcalled, hlogged, own_launchRecord_alone, hsettings]⟩
  | succeed pid course =>
    have hlength : (k.alone c pids l).processes.length = k.rank c k.processes.length :=
      k.length_processesOn c pids
    rw [launch_of_ok (asked_of_next hl), launch_of_ok (asked_of_next (hnext.trans hl)), hlength]
    exact ⟨⟨_, ((k.alone c pids l).asked c s).launcher,
      alone_install (k := { k with launcher := (k.asked c s).launcher }) pid course,
      (hn.update pid).concat rfl fun _ => by simp⟩, rfl,
      by simp [hcalled, hlogged, own_launchRecord_alone, hsettings]⟩

theorem alone_serve (hk : k.Housed) (hn : k.Named c pids) (hs : k.shutDown = false)
    (hr : r.channel? = some c) (hnext : k.launches r = true → l.next = k.launcher.next) :
    (∃ pids' l', ((k.alone c pids l).serve r).state = (k.serve r).state.alone c pids' l' ∧
      (k.serve r).state.Named c pids') ∧
      (∃ a b, (k.serve r).answer = some a ∧ ((k.alone c pids l).serve r).answer = some b ∧
        a.Same (k.Renumbered c) b) ∧
      traceOn c g ((k.alone c pids l).serve r).trace = traceOn c f (k.serve r).trace := by
  cases r with
  | start d s =>
    obtain rfl := Option.some.inj hr
    simp only [serve]
    cases hl : k.launches (.start d s) with
    | false =>
      obtain ⟨hrestart, e, he⟩ : s.restart = false ∧ ∃ e, k.registry.get d = some e := by
        simpa [launches, hs, Slots.contains, Option.isSome_iff_exists] using hl
      have he' : (k.alone d pids l).registry.get d = some (e.renumber (k.rank d) pids) := by
        simp [entryOn, he]
      have hs' : (k.alone d pids l).shutDown = false := hs
      rw [start_of_occupied hs he hrestart, start_of_occupied hs' he' hrestart]
      exact ⟨⟨pids, l, rfl, hn⟩, ⟨_, _, rfl, rfl, .refl _⟩, rfl⟩
    | true =>
      have hl' : (k.alone d pids l).launches (.start d s) = true := by
        rw [alone_launches, hl]
      obtain ⟨events, ht⟩ := start_of_launches hl
      obtain ⟨events', ht'⟩ := start_of_launches hl'
      have hnext' : l.next = (k.vacate d).launcher.next := by
        rw [(k.withdrawn_vacate d).launcher]
        exact hnext hl
      obtain ⟨hstate, hanswer, htrace⟩ :=
        alone_launch (s := s) (f := f) (g := g) (hn.vacate d) hnext'
      rw [ht, ht', alone_vacate hk]
      exact ⟨hstate, ⟨_, _, rfl, rfl, hanswer ▸ .refl _⟩, by simp [htrace]⟩
  | stop d =>
    obtain rfl := Option.some.inj hr
    refine ⟨⟨pids, l, ?_, ?_⟩, ⟨_, _, rfl, rfl, ?_⟩, ?_⟩
    · simp only [serve, stop_state, alone_vacate hk]
    · simp only [serve, stop_state]
      exact hn.vacate d
    · simp only [stop, alone_get, entryOn]
      cases k.registry.get d <;> exact .refl _
    · simp only [serve, stop, alone_get, entryOn]
      cases k.registry.get d <;> rfl
  | status d =>
    obtain rfl := Option.some.inj hr
    exact ⟨⟨pids, l, rfl, hn⟩, ⟨_, _, rfl, rfl, same_status hk hn⟩, rfl⟩
  | isRunning d =>
    obtain rfl := Option.some.inj hr
    exact ⟨⟨pids, l, rfl, hn⟩, ⟨_, _, rfl, rfl, alone_isRunning hk hn ▸ .refl _⟩, rfl⟩
  | contains d =>
    obtain rfl := Option.some.inj hr
    exact ⟨⟨pids, l, rfl, hn⟩, ⟨_, _, rfl, rfl, alone_contains k d pids l ▸ .refl _⟩, rfl⟩
  | _ => cases hr

/-! ### Processes that end -/

theorem alone_processes (ps : List Process)
    (h : ps.map (·.channel) = k.processes.map (·.channel)) :
    ({ k with processes := ps } : Supervisor Script).alone c pids l =
      { k.alone c pids l with
        processes := (ps.filter fun p => p.channel = c).mapIdx (.renumber pids) } := by
  have hsame : ({ k with processes := ps } : Supervisor Script).rank c = k.rank c := by
    funext i
    rw [rank_eq_countP, rank_eq_countP, h]
  simp only [alone, entryOn, processesOn, hsame]

theorem settle_renumber (p : Process) (j : Nat) :
    (p.renumber pids j).settle 0 = (p.settle 0).renumber pids j := by
  rw [Process.settle_zero, Process.settle_zero, apply_ite (Process.renumber pids j)]
  rfl

theorem alone_settle (k : Supervisor Script) (c : Channel) (pids : Nat → ScriptedPid)
    (l : Script) :
    ((k.alone c pids l).move .settle).1 = (k.move .settle).1.alone c pids l := by
  have hchannel (p : Process) : (p.settle 0).channel = p.channel := (p.evolves_settle 0).channel
  refine Eq.trans ?_ (alone_processes (k.processes.map (.settle 0)) (by simp [hchannel])).symm
  have hprocesses : (k.processesOn c pids).map (Process.settle 0) =
      ((k.processes.map (Process.settle 0)).filter fun p => p.channel = c).mapIdx
        (Process.renumber pids) := by
    simp only [processesOn, List.filter_map, Function.comp_def, hchannel]
    refine List.ext_getElem? fun j => ?_
    simp only [List.getElem?_map, List.getElem?_mapIdx, Option.map_map, Function.comp_def,
      settle_renumber]
  simp only [move, settle, ← hprocesses]
  rfl

theorem traceOn_settle (k : Supervisor Script) : traceOn c f (k.move .settle).2 = [] := by
  refine List.filterMap_eq_nil_iff.mpr fun e he => ?_
  obtain ⟨p, -, hp⟩ := List.mem_filterMap.mp he
  obtain ⟨event, -, rfl⟩ := Option.map_eq_some_iff.mp hp
  rfl

theorem map_channel_modify (ps : List Process) (i : Nat) (collected : Collected) :
    (ps.modify i (.tell collected)).map (·.channel) = ps.map (·.channel) := by
  refine List.ext_getElem? fun j => ?_
  simp only [List.getElem?_map, List.getElem?_modify]
  cases ps[j]? with
  | none => rfl
  | some p => by_cases h : i = j <;> simp [h, Process.tell]

theorem alone_tell {collected : Collected} (hi : ∀ p, k.processes[i]? = some p → p.channel = c) :
    ((k.alone c pids l).move (.tell (k.rank c i) collected)).1 =
      (k.move (.tell i collected)).1.alone c pids l := by
  have hsame : (k.alone c pids l).processes[k.rank c i]? =
      k.processes[i]?.map (.renumber pids (k.rank c i)) := by
    cases hp : k.processes[i]? with
    | some p => exact getElem?_processesOn hp (hi p hp)
    | none =>
      have hle := List.getElem?_eq_none_iff.mp hp
      rw [Option.map_none, List.getElem?_eq_none_iff, rank, List.take_of_length_le hle]
      exact Nat.le_of_eq ((k.length_processesOn c pids).trans (by rw [rank, List.take_length]))
  simp only [move, tell, hsame]
  cases hp : k.processes[i]? with
  | none => rfl
  | some p =>
    have hprocesses : ((k.processes.modify i (.tell collected)).filter
        fun p => p.channel = c).mapIdx (.renumber pids) =
          (k.processesOn c pids).modify (k.rank c i) (.tell collected) := by
      rw [filter_modify (f := Process.tell collected) hp (by simp [hi p hp]) fun _ => rfl]
      exact mapIdx_modify fun _ _ => rfl
    simp only [Option.map_some, Option.any_some]
    simp only [show (p.renumber pids (k.rank c i)).isAlive = p.isAlive from rfl]
    split
    · refine Eq.trans ?_ (alone_processes _ (map_channel_modify ..)).symm
      rw [hprocesses]
      rfl
    · rfl

theorem alone_tell_of_ne {collected : Collected} (hp : k.processes[i]? = some p)
    (hc : p.channel ≠ c) :
    (k.move (.tell i collected)).1.alone c pids l = k.alone c pids l := by
  have hfilter : (k.processes.modify i (.tell collected)).filter (fun p => p.channel = c) =
      k.processes.filter fun p => p.channel = c :=
    filter_modify_of_not hp (by simp [hc]) (by simp [Process.tell, hc])
  simp only [move, tell]
  split
  · refine (alone_processes _ (map_channel_modify ..)).trans ?_
    rw [hfilter]
    rfl
  · rfl

end Supervisor
end StreamSupervisor
