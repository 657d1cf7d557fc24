import StreamSupervisor.Session.Call

/-! # What a request does

A request withdraws the entries of some channels and fires their tokens, and a start then
calls the launcher for a channel that shows nothing. Nothing else changes the registry or
a token while a request is served.
-/

namespace StreamSupervisor

/-- A later state of a process: what it was launched with stays, and so do its fired token
and its exit. -/
structure Process.Evolves (p q : Process) : Prop where
  channel : q.channel = p.channel
  arguments : q.arguments = p.arguments
  pid : q.pid = p.pid
  fired : p.fired = true → q.fired = true
  exit : ∀ o, p.exit = some o → q.exit = some o

namespace Process

theorem Evolves.refl (p : Process) : p.Evolves p := ⟨rfl, rfl, rfl, id, fun _ => id⟩

theorem Evolves.trans {p q r : Process} (h : p.Evolves q) (h' : q.Evolves r) : p.Evolves r where
  channel := h'.channel.trans h.channel
  arguments := h'.arguments.trans h.arguments
  pid := h'.pid.trans h.pid
  fired hp := h'.fired (h.fired hp)
  exit o ho := h'.exit o (h.exit o ho)

theorem evolves_fire (p : Process) : p.Evolves p.fire := ⟨rfl, rfl, rfl, fun _ => rfl, fun _ => id⟩

theorem evolves_tell (p : Process) (collected : Collected) : p.Evolves (p.tell collected) :=
  ⟨rfl, rfl, rfl, id, fun _ => id⟩

theorem settle_cases (p : Process) (elapsed : Nat) :
    p.settle elapsed = p ∨ p.exit = none ∧
      ((∃ collected, p.settle elapsed = p.finish collected) ∨
        ∃ course, p.settle elapsed = { p with course := course }) := by
  cases ha : p.isAlive with
  | false => exact .inl (by simp [settle, ha])
  | true =>
    have he : p.exit = none := by simpa [isAlive] using ha
    simp only [settle, ha, if_true, he, true_and]
    split
    · exact .inl rfl
    · split
      · exact .inr (.inl ⟨_, rfl⟩)
      · exact .inl rfl
    · split
      · exact .inr (.inl ⟨_, rfl⟩)
      · split
        · exact .inr (.inl ⟨_, rfl⟩)
        · exact .inr (.inr ⟨_, rfl⟩)

@[simp] theorem settle_fired (p : Process) (elapsed : Nat) :
    (p.settle elapsed).fired = p.fired := by
  rcases p.settle_cases elapsed with h | ⟨-, ⟨_, h⟩ | ⟨_, h⟩⟩
  · rw [h]
  · rw [h, finish]
  · rw [h]

theorem evolves_settle (p : Process) (elapsed : Nat) : p.Evolves (p.settle elapsed) := by
  rcases p.settle_cases elapsed with h | ⟨he, ⟨_, h⟩ | ⟨_, h⟩⟩ <;> rw [h]
  · exact .refl p
  · exact ⟨rfl, rfl, rfl, id, fun o ho => by simp [he] at ho⟩
  · exact ⟨rfl, rfl, rfl, id, fun _ => id⟩

def launch (p : Process) : Channel × List String := (p.channel, p.arguments)

theorem Evolves.launch {p q : Process} (h : p.Evolves q) : q.launch = p.launch := by
  simp [Process.launch, h.channel, h.arguments]

end Process

namespace Happening

/-- What a launch that succeeds is asked for. -/
def success? : Happening → Option (Channel × List String)
  | launched r => if r.failed then none else some (r.channel, r.arguments)
  | _ => none

theorem filterMap_success?_eq_nil {trace : List Happening} (h : ∀ record, launched record ∉ trace) :
    trace.filterMap success? = [] := by
  refine List.filterMap_eq_nil_iff.mpr fun e he => ?_
  cases e with
  | launched record => exact (h record he).elim
  | _ => rfl

@[simp] theorem filterMap_success?_logged (events : List Event) :
    (events.map logged).filterMap success? = [] :=
  filterMap_success?_eq_nil (by simp)

end Happening

namespace Supervisor

variable {ℓ : Type} {k : Supervisor ℓ} {c d : Channel} {i : Nat}

def owner? (k : Supervisor ℓ) (c : Channel) : Option Owner := (k.registry.get c).map (·.owner)

/-- A channel's entry is the handle of a process. -/
def Shows (k : Supervisor ℓ) (c : Channel) (i : Nat) : Prop := k.owner? c = some (.process i)

instance (k : Supervisor ℓ) (c : Channel) (i : Nat) : Decidable (k.Shows c i) :=
  inferInstanceAs (Decidable (k.owner? c = some (.process i)))

theorem shows_iff : k.Shows c i ↔ ∃ e, k.registry.get c = some e ∧ e.owner = .process i := by
  simp [Shows, owner?, Option.map_eq_some_iff]

theorem Shows.unique {j : Nat} (h : k.Shows c i) (h' : k.Shows c j) : i = j := by
  have := h.symm.trans h'
  simpa using this

/-- Whether the token behind an entry of one of some channels is an owner's. -/
def ownedIn (k : Supervisor ℓ) (cs : Channel → Bool) (o : Owner) : Bool :=
  Channel.all.any fun c => cs c && decide (k.owner? c = some o)

theorem ownedIn_iff {cs : Channel → Bool} {o : Owner} :
    k.ownedIn cs o = true ↔ ∃ c, cs c = true ∧ k.owner? c = some o := by
  simp [ownedIn]

theorem ownedIn_single (k : Supervisor ℓ) (c : Channel) (o : Owner) :
    k.ownedIn (fun d => decide (d = c)) o = decide (k.owner? c = some o) := by
  rw [Bool.eq_iff_iff, ownedIn_iff]
  simp

/-! ### Firing -/

@[simp] theorem fire_registry (k : Supervisor ℓ) (o : Owner) :
    (k.fire o).registry = k.registry := by cases o <;> rfl

@[simp] theorem fire_launcher (k : Supervisor ℓ) (o : Owner) :
    (k.fire o).launcher = k.launcher := by cases o <;> rfl

@[simp] theorem fire_settings (k : Supervisor ℓ) (o : Owner) :
    (k.fire o).settings = k.settings := by cases o <;> rfl

@[simp] theorem fire_shutDown (k : Supervisor ℓ) (o : Owner) :
    (k.fire o).shutDown = k.shutDown := by cases o <;> rfl

@[simp] theorem fire_length_processes (k : Supervisor ℓ) (o : Owner) :
    (k.fire o).processes.length = k.processes.length := by cases o <;> simp [fire]

theorem getElem?_fire (k : Supervisor ℓ) (o : Owner) (i : Nat) :
    (k.fire o).processes[i]? =
      k.processes[i]?.map fun p => if o = .process i then p.fire else p := by
  cases o <;> simp [fire, List.getElem?_modify]

theorem getElem?_guests_fire (k : Supervisor ℓ) (o : Owner) (j : Nat) :
    (k.fire o).guests[j]? = k.guests[j]?.map fun b => b || decide (o = .guest j) := by
  cases o with
  | process i => simp [fire]
  | guest i =>
    simp only [fire, List.getElem?_modify, Owner.guest.injEq]
    by_cases h : i = j <;> simp [h]

def fireEach (k : Supervisor ℓ) (os : List Owner) : Supervisor ℓ := os.foldl fire k

section fireEach

variable (k : Supervisor ℓ) (os : List Owner)

@[simp] theorem fireEach_registry : (k.fireEach os).registry = k.registry := by
  induction os generalizing k with
  | nil => rfl
  | cons o os ih => exact (ih _).trans (k.fire_registry o)

@[simp] theorem fireEach_launcher : (k.fireEach os).launcher = k.launcher := by
  induction os generalizing k with
  | nil => rfl
  | cons o os ih => exact (ih _).trans (k.fire_launcher o)

@[simp] theorem fireEach_settings : (k.fireEach os).settings = k.settings := by
  induction os generalizing k with
  | nil => rfl
  | cons o os ih => exact (ih _).trans (k.fire_settings o)

@[simp] theorem fireEach_shutDown : (k.fireEach os).shutDown = k.shutDown := by
  induction os generalizing k with
  | nil => rfl
  | cons o os ih => exact (ih _).trans (k.fire_shutDown o)

theorem getElem?_fireEach (i : Nat) :
    (k.fireEach os).processes[i]? =
      k.processes[i]?.map fun p => if .process i ∈ os then p.fire else p := by
  induction os generalizing k with
  | nil => simp [fireEach]
  | cons o os ih =>
    rw [show k.fireEach (o :: os) = (k.fire o).fireEach os from rfl, ih, getElem?_fire]
    cases k.processes[i]? with
    | none => rfl
    | some p =>
      simp only [Option.map_some, List.mem_cons, eq_comm (a := Owner.process i) (b := o)]
      by_cases ho : o = .process i <;> by_cases hi : .process i ∈ os <;>
        simp [ho, hi, Process.fire]

theorem getElem?_guests_fireEach (j : Nat) :
    (k.fireEach os).guests[j]? = k.guests[j]?.map fun b => b || decide (.guest j ∈ os) := by
  induction os generalizing k with
  | nil => simp [fireEach]
  | cons o os ih =>
    rw [show k.fireEach (o :: os) = (k.fire o).fireEach os from rfl, ih, getElem?_guests_fire,
      Option.map_map]
    congr 1
    funext b
    simp [Bool.or_assoc, eq_comm (a := Owner.guest j) (b := o), Bool.decide_or]

end fireEach

/-! ### Withdrawing entries -/

/-- The entries of some channels are gone and their tokens have fired. All else is as it
was. -/
structure Withdrawn (cs : Channel → Bool) (k k' : Supervisor ℓ) : Prop where
  settings : k'.settings = k.settings
  launcher : k'.launcher = k.launcher
  shutDown : k'.shutDown = k.shutDown
  registry : ∀ c, k'.registry.get c = if cs c then none else k.registry.get c
  processes : ∀ i, k'.processes[i]? =
    k.processes[i]?.map fun p => if k.ownedIn cs (.process i) then p.fire else p
  guests : ∀ j, k'.guests[j]? = k.guests[j]?.map fun b => b || k.ownedIn cs (.guest j)

theorem Withdrawn.refl (k : Supervisor ℓ) : Withdrawn (fun _ => false) k k := by
  have ho (o : Owner) : k.ownedIn (fun _ => false) o = false := by simp [ownedIn, Channel.all]
  refine ⟨rfl, rfl, rfl, fun _ => rfl, fun i => ?_, fun j => ?_⟩
  · simp [ho]
  · simp [ho]

theorem withdrawn_dismiss {e : Entry} (h : k.registry.get c = some e) :
    Withdrawn (fun d => decide (d = c)) k (k.dismiss c e) := by
  have ho (o : Owner) : k.ownedIn (fun d => decide (d = c)) o = decide (e.owner = o) := by
    simp [ownedIn_single, owner?, h]
  refine ⟨?_, ?_, ?_, fun d => ?_, fun i => ?_, fun j => ?_⟩
  · simp [dismiss]
  · simp [dismiss]
  · simp [dismiss]
  · simp [dismiss, Slots.get_erase, eq_comm]
  · rw [ho, dismiss, getElem?_fire]
    simp
  · rw [ho, dismiss, getElem?_guests_fire]

theorem withdrawn_of_get_eq_none (h : k.registry.get c = none) :
    Withdrawn (fun d => decide (d = c)) k k := by
  have ho (o : Owner) : k.ownedIn (fun d => decide (d = c)) o = false := by
    simp [ownedIn_single, owner?, h]
  refine ⟨rfl, rfl, rfl, fun d => ?_, fun i => ?_, fun j => ?_⟩
  · by_cases hd : d = c <;> simp [hd, h]
  · simp [ho]
  · simp [ho]

theorem stopAll_state (k : Supervisor ℓ) : k.stopAll.state =
    ({ k with registry := {} } : Supervisor ℓ).fireEach
      (k.registry.toList.map fun p => p.2.owner) := by
  simp [stopAll, fireEach, List.foldl_map]

theorem withdrawn_stopAll (k : Supervisor ℓ) :
    Withdrawn (fun _ => true) k k.stopAll.state := by
  have ho (o : Owner) : k.ownedIn (fun _ => true) o =
      decide (o ∈ k.registry.toList.map fun p => p.2.owner) := by
    rw [Bool.eq_iff_iff, ownedIn_iff]
    simp [owner?, Slots.mem_toList]
  rw [stopAll_state]
  refine ⟨by simp, by simp, by simp, fun d => by simp, fun i => ?_, fun j => ?_⟩
  · simp only [ho, getElem?_fireEach, decide_eq_true_eq]
  · rw [ho, getElem?_guests_fireEach]

theorem stopAll_registry (k : Supervisor ℓ) : k.stopAll.state.registry = {} :=
  Slots.ext_get fun c => by simpa using k.withdrawn_stopAll.registry c

theorem Withdrawn.map_processes {cs : Channel → Bool} {k' : Supervisor ℓ} {α : Type}
    {f : Process → α} (h : Withdrawn cs k k') (hf : ∀ p, f p.fire = f p) :
    k'.processes.map f = k.processes.map f := by
  refine List.ext_getElem? fun i => ?_
  rw [List.getElem?_map, List.getElem?_map, h.processes, Option.map_map]
  congr 1
  funext p
  simp only [Function.comp_apply]
  split
  · exact hf p
  · rfl

theorem Withdrawn.map_launch {cs : Channel → Bool} {k' : Supervisor ℓ} (h : Withdrawn cs k k') :
    k'.processes.map Process.launch = k.processes.map Process.launch :=
  h.map_processes fun _ => rfl

theorem Withdrawn.length_processes {cs : Channel → Bool} {k' : Supervisor ℓ}
    (h : Withdrawn cs k k') : k'.processes.length = k.processes.length := by
  simpa using congrArg List.length h.map_launch

/-- The supervisor with a channel made free. -/
def vacate (k : Supervisor ℓ) (c : Channel) : Supervisor ℓ :=
  match k.registry.get c with
  | none => k
  | some e => k.dismiss c e

theorem withdrawn_vacate (k : Supervisor ℓ) (c : Channel) :
    Withdrawn (fun d => decide (d = c)) k (k.vacate c) := by
  unfold vacate
  split
  · exact withdrawn_of_get_eq_none ‹_›
  · exact withdrawn_dismiss ‹_›

theorem vacate_registry_get (k : Supervisor ℓ) (c d : Channel) :
    (k.vacate c).registry.get d = if d = c then none else k.registry.get d := by
  simpa using (k.withdrawn_vacate c).registry d

/-! ### Starting -/

/-- Whether a request gets as far as the launcher. -/
def launches (k : Supervisor ℓ) : Request → Bool
  | .start c s => !k.shutDown && (s.restart || !k.registry.contains c)
  | _ => false

/-- The channels whose entries a request withdraws. -/
def withdraws (k : Supervisor ℓ) : Request → Channel → Bool
  | .start c s, d => k.launches (.start c s) && decide (d = c)
  | .stop c, d => decide (d = c)
  | .stopAll, _ | .shutdown, _ => true
  | _, _ => false

theorem withdraws_of_launches {s : StreamSpec} (h : k.launches (.start c s) = true) :
    k.withdraws (.start c s) = fun d => decide (d = c) := by
  funext d
  simp [withdraws, h]

section Serving

variable [Launcher ℓ] {s : StreamSpec}

theorem start_of_shutDown (h : k.shutDown = true) :
    k.start c s = ⟨k, [.logged (.refusedShutDown c)], .error .shutDown⟩ := by
  simp [start, h]

theorem start_of_occupied {e : Entry} (h : k.shutDown = false) (he : k.registry.get c = some e)
    (hs : s.restart = false) :
    k.start c s = ⟨k, [.logged (.refusedRunning c e.pid)], .error (.alreadyRunning c)⟩ := by
  simp [start, h, he, hs]

theorem start_of_free (h : k.shutDown = false) (hc : k.registry.get c = none) :
    k.start c s = k.launch c s := by
  simp [start, h, hc]

theorem start_of_restart {e : Entry} (h : k.shutDown = false) (he : k.registry.get c = some e)
    (hs : s.restart = true) :
    k.start c s = { (k.dismiss c e).launch c s with
      trace := .logged (.superseded c e.pid e.spec.source) ::
        ((k.dismiss c e).launch c s).trace } := by
  simp [start, h, he, hs]

theorem start_of_launches (h : k.launches (.start c s) = true) :
    ∃ events : List Event, k.start c s = { (k.vacate c).launch c s with
      trace := events.map .logged ++ ((k.vacate c).launch c s).trace } := by
  simp only [launches, Bool.and_eq_true, Bool.not_eq_true', Bool.or_eq_true, Slots.contains] at h
  cases he : k.registry.get c with
  | none => exact ⟨[], by simp [start_of_free h.1 he, vacate, he]⟩
  | some e =>
    have hs : s.restart = true := by simpa [he] using h.2
    exact ⟨[.superseded c e.pid e.spec.source], by simp [start_of_restart h.1 he hs, vacate, he]⟩

theorem start_cases_of_not_launches (h : k.launches (.start c s) = false) :
    k.start c s = ⟨k, [.logged (.refusedShutDown c)], .error .shutDown⟩ ∨
      ∃ e, k.registry.get c = some e ∧
        k.start c s = ⟨k, [.logged (.refusedRunning c e.pid)], .error (.alreadyRunning c)⟩ := by
  cases hk : k.shutDown with
  | true => exact .inl (start_of_shutDown hk)
  | false =>
    simp only [launches, hk, Bool.not_false, Bool.true_and, Bool.or_eq_false_iff,
      Bool.not_eq_false', Slots.contains, Option.isSome_iff_exists] at h
    obtain ⟨hs, e, he⟩ := h
    exact .inr ⟨e, he, start_of_occupied hk he hs⟩

theorem start_of_not_launches (h : k.launches (.start c s) = false) :
    ∃ event error, k.start c s = ⟨k, [.logged event], .error error⟩ := by
  rcases start_cases_of_not_launches h with hs | ⟨_, -, hs⟩ <;> exact ⟨_, _, hs⟩

/-- What a launcher answers when it is asked for a process. -/
def asked (k : Supervisor ℓ) (c : Channel) (s : StreamSpec) : LaunchReply ℓ :=
  Launcher.launch k.launcher
    { channel := c, arguments := arguments k.settings c s, index := k.processes.length }

theorem launch_of_ok {child : Child} (h : (k.asked c s).child = .ok child) :
    k.launch c s =
      { state := ({ k with launcher := (k.asked c s).launcher } : Supervisor ℓ).install c s child
        trace := .launched (k.launchRecord c (arguments k.settings c s) false) ::
          (k.asked c s).events.map .logged ++ [.logged (.started c child.pid s.source)]
        answer := .ok () } := by
  simp only [asked] at h
  simp only [launch, asked, h]

theorem launch_of_error {fault : Fault} (h : (k.asked c s).child = .error fault) :
    k.launch c s =
      { state := { k with launcher := (k.asked c s).launcher }
        trace := .launched (k.launchRecord c (arguments k.settings c s) true) ::
          (k.asked c s).events.map .logged ++ [.logged (.launchFailed c s.source fault)]
        answer := .error (.launchFailed c fault) } := by
  simp only [asked] at h
  simp only [launch, asked, h]

/-! ### Serving -/

/-- What a supervisor may be after serving a request: some entries were withdrawn, and then
a start may have called the launcher. -/
inductive Served (k : Supervisor ℓ) (r : Request) : Supervisor ℓ → Prop where
  | withdrawn {k₁ : Supervisor ℓ} : Withdrawn (k.withdraws r) k k₁ → k.launches r = false →
      Served k r k₁
  | failed {k₁ : Supervisor ℓ} {c : Channel} {s : StreamSpec} {fault : Fault} :
      Withdrawn (k.withdraws r) k k₁ → r = .start c s → k.launches r = true →
      (k₁.asked c s).child = .error fault →
      Served k r { k₁ with launcher := (k₁.asked c s).launcher }
  | launched {k₁ : Supervisor ℓ} {c : Channel} {s : StreamSpec} {child : Child} :
      Withdrawn (k.withdraws r) k k₁ → r = .start c s → k.launches r = true →
      (k₁.asked c s).child = .ok child →
      Served k r (({ k₁ with launcher := (k₁.asked c s).launcher } :
        Supervisor ℓ).install c s child)

theorem served_start (k : Supervisor ℓ) (c : Channel) (s : StreamSpec) :
    Served k (.start c s) (k.start c s).state := by
  cases h : k.launches (.start c s) with
  | false =>
    obtain ⟨_, _, hs⟩ := start_of_not_launches h
    have hw : k.withdraws (.start c s) = fun _ => false := by
      funext d
      simp [withdraws, h]
    rw [hs]
    exact .withdrawn (hw ▸ .refl k) h
  | true =>
    obtain ⟨_, hs⟩ := start_of_launches h
    have hw : Withdrawn (k.withdraws (.start c s)) k (k.vacate c) :=
      withdraws_of_launches h ▸ k.withdrawn_vacate c
    rw [hs]
    cases ha : ((k.vacate c).asked c s).child with
    | error fault =>
      rw [launch_of_error ha]
      exact .failed hw rfl h ha
    | ok child =>
      rw [launch_of_ok ha]
      exact .launched hw rfl h ha

theorem served_serve (k : Supervisor ℓ) (r : Request) : Served k r (k.serve r).state := by
  cases r with
  | start c s => exact served_start k c s
  | stop c =>
    refine .withdrawn ?_ rfl
    change Withdrawn (fun d => decide (d = c)) k (k.stop c).state
    unfold stop
    split
    · exact withdrawn_of_get_eq_none ‹_›
    · exact withdrawn_dismiss ‹_›
  | stopAll => exact .withdrawn (withdrawn_stopAll k) rfl
  | shutdown => exact .withdrawn (withdrawn_stopAll k) rfl
  | _ => exact .withdrawn (.refl k) rfl

theorem serve_shutDown (k : Supervisor ℓ) (r : Request) :
    (k.serve r).state.shutDown = k.shutDown := by
  have hserve := k.served_serve r
  generalize (k.serve r).state = k' at hserve ⊢
  cases hserve with
  | withdrawn hw => exact hw.shutDown
  | failed hw => exact hw.shutDown
  | launched hw => exact hw.shutDown

theorem serve_settings (k : Supervisor ℓ) (r : Request) :
    (k.serve r).state.settings = k.settings := by
  have hserve := k.served_serve r
  generalize (k.serve r).state = k' at hserve ⊢
  cases hserve with
  | withdrawn hw => exact hw.settings
  | failed hw => exact hw.settings
  | launched hw => exact hw.settings

theorem withdrawn_serve {r : Request} (h : k.launches r = false) :
    Withdrawn (k.withdraws r) k (k.serve r).state := by
  have hserve := k.served_serve r
  generalize (k.serve r).state = k' at hserve ⊢
  cases hserve with
  | withdrawn hw => exact hw
  | failed _ _ hl => simp [h] at hl
  | launched _ _ hl => simp [h] at hl

theorem mem_launch_trace {e : Happening} (h : e ∈ (k.launch c s).trace) :
    (∃ event, e = .logged event) ∨
      ∃ failed, e = .launched (k.launchRecord c (arguments k.settings c s) failed) := by
  cases ha : (k.asked c s).child with
  | error fault =>
    rw [launch_of_error ha] at h
    simp only [List.cons_append, List.mem_cons, List.mem_append, List.mem_map, List.not_mem_nil,
      or_false] at h
    rcases h with rfl | ⟨event, -, rfl⟩ | rfl
    · exact .inr ⟨_, rfl⟩
    · exact .inl ⟨_, rfl⟩
    · exact .inl ⟨_, rfl⟩
  | ok child =>
    rw [launch_of_ok ha] at h
    simp only [List.cons_append, List.mem_cons, List.mem_append, List.mem_map, List.not_mem_nil,
      or_false] at h
    rcases h with rfl | ⟨event, -, rfl⟩ | rfl
    · exact .inr ⟨_, rfl⟩
    · exact .inl ⟨_, rfl⟩
    · exact .inl ⟨_, rfl⟩

theorem mem_serve_trace {r : Request} {e : Happening} (h : e ∈ (k.serve r).trace) :
    (∃ event, e = .logged event) ∨ ∃ c s failed, r = .start c s ∧ k.launches r = true ∧
      e = .launched ((k.vacate c).launchRecord c (arguments k.settings c s) failed) := by
  cases r with
  | start c s =>
    change _ ∈ (k.start c s).trace at h
    cases hl : k.launches (.start c s) with
    | false =>
      obtain ⟨event, _, hs⟩ := start_of_not_launches hl
      exact .inl ⟨event, by simpa [hs] using h⟩
    | true =>
      obtain ⟨events, hs⟩ := start_of_launches hl
      rw [hs] at h
      rcases List.mem_append.mp h with h | h
      · obtain ⟨event, -, rfl⟩ := List.mem_map.mp h
        exact .inl ⟨event, rfl⟩
      · rcases mem_launch_trace h with h | ⟨failed, h⟩
        · exact .inl h
        · rw [(k.withdrawn_vacate c).settings] at h
          exact .inr ⟨c, s, failed, rfl, rfl, h⟩
  | stop c =>
    change _ ∈ (k.stop c).trace at h
    unfold stop at h
    split at h <;> exact .inl ⟨_, List.mem_singleton.mp h⟩
  | stopAll =>
    obtain ⟨p, -, rfl⟩ := List.mem_map.mp h
    exact .inl ⟨_, rfl⟩
  | shutdown =>
    rcases List.mem_append.mp h with h | h
    · obtain ⟨p, -, rfl⟩ := List.mem_map.mp h
      exact .inl ⟨_, rfl⟩
    · exact .inl ⟨_, List.mem_singleton.mp h⟩
  | _ => simp [serve] at h

theorem map_launch_launch (k : Supervisor ℓ) (c : Channel) (s : StreamSpec) :
    (k.launch c s).state.processes.map Process.launch =
      k.processes.map Process.launch ++ (k.launch c s).trace.filterMap Happening.success? := by
  cases ha : (k.asked c s).child with
  | error fault =>
    rw [launch_of_error ha]
    simp [Happening.success?, launchRecord]
  | ok child =>
    rw [launch_of_ok ha]
    simp [Happening.success?, launchRecord, install, Process.launch]

theorem map_launch_serve (k : Supervisor ℓ) (r : Request) :
    (k.serve r).state.processes.map Process.launch =
      k.processes.map Process.launch ++ (k.serve r).trace.filterMap Happening.success? := by
  cases hl : k.launches r with
  | false =>
    have ht : (k.serve r).trace.filterMap Happening.success? = [] := by
      refine Happening.filterMap_success?_eq_nil fun record hr => ?_
      rcases mem_serve_trace hr with ⟨_, he⟩ | ⟨_, _, _, _, hl', _⟩
      · cases he
      · simp [hl] at hl'
    rw [ht, List.append_nil, (withdrawn_serve hl).map_launch]
  | true =>
    cases r with
    | start c s =>
      obtain ⟨events, hs⟩ := start_of_launches hl
      simp only [serve]
      rw [hs, ← (k.withdrawn_vacate c).map_launch, map_launch_launch, List.filterMap_append,
        Happening.filterMap_success?_logged, List.nil_append]
    | _ => cases hl

end Serving

end Supervisor
end StreamSupervisor
