import StreamSupervisor.Proofs.Registry.Custody

/-! # The state of a handle is its own

What a handle was put in with never changes. Its token fires only by a cancel that reaches
it, on the channel that shows it or among the removed, and its exit is the first that is
written. So it does not matter to a handle what is done to others, nor where it is.
-/

namespace StreamSupervisor

namespace Ledger

variable {l : Ledger} {s : Step} {c : Channel} {i : Nat} {h h' : Handle} {o : ExitOutcome}

/-- Whether a step cancels a handle: the one that its channel shows, or a removed one by its
number. -/
def cancels (l : Ledger) : Step → Nat → Bool
  | .cancel c, i => decide (l.current.get c = some i)
  | .cancelRemoved j, i => decide (j = i ∧ i ∈ l.removed)
  | _, _ => false

def Step.exit? (i : Nat) : Step → Option ExitOutcome
  | setExit j outcome => if j = i then some outcome else none
  | _ => none

def Sometime (l : Ledger) (steps : List Step) (P : Ledger → Step → Prop) : Prop :=
  ∃ before s rest, steps = before ++ s :: rest ∧ P (l.run before) s

/-- What becomes of a handle in some steps: it stays what it was put in as, its token fires if
a step cancels it, and its exit is what is written first. -/
structure Kept (l : Ledger) (steps : List Step) (i : Nat) (h h' : Handle) : Prop where
  fresh : h'.fresh = h.fresh
  fired : h'.fired = true ↔ h.fired = true ∨ l.Sometime steps fun l s => l.cancels s i = true
  exit : h'.exit = h.exit.or (steps.findSome? (Step.exit? i))

theorem sometime_cons_iff {P : Ledger → Step → Prop} {steps : List Step} :
    l.Sometime (s :: steps) P ↔ P l s ∨ (l.step s).1.Sometime steps P := by
  constructor
  · rintro ⟨before, t, rest, heq, ht⟩
    cases before with
    | nil =>
      obtain ⟨rfl, -⟩ := List.cons.inj heq
      exact .inl ht
    | cons s' before =>
      obtain ⟨rfl, rfl⟩ := List.cons.inj heq
      exact .inr ⟨before, t, rest, rfl, ht⟩
  · rintro (hs | ⟨before, t, rest, rfl, ht⟩)
    · exact ⟨[], s, steps, rfl, hs⟩
    · exact ⟨s :: before, t, rest, rfl, ht⟩

/-! ### One step -/

def touched (l : Ledger) (s : Step) (i : Nat) (h : Handle) : Handle :=
  { h with fired := h.fired || l.cancels s i, exit := h.exit.or (s.exit? i) }

theorem touched_of_not_cancels (hc : l.cancels s i = false) (he : s.exit? i = none) :
    l.touched s i h = h := by
  simp [touched, hc, he]

theorem touched_of_cancels (hc : l.cancels s i = true) : l.touched s i h = h.fire := by
  have he : s.exit? i = none := by cases s <;> first | rfl | cases hc
  simp [touched, hc, he, Handle.fire]

theorem getElem?_modify_handles (j : Nat) (f : Handle → Handle) (hh : l.handles[i]? = some h) :
    (l.modify j f).handles[i]? = some (if j = i then f h else h) := by
  simp [modify, List.getElem?_modify, hh]

theorem getElem?_step (hh : l.handles[i]? = some h) (s : Step) :
    (l.step s).1.handles[i]? = some (l.touched s i h) := by
  have untouched (hc : l.cancels s i = false) (he : s.exit? i = none) :
      some (l.touched s i h) = l.handles[i]? := by
    rw [touched_of_not_cancels hc he, hh]
  cases s with
  | set c pid spec sink =>
    rw [untouched rfl rfl]
    exact List.getElem?_append_left (List.getElem?_eq_some_iff.mp hh).1
  | cancel c =>
    simp only [step]
    cases hc : l.current.get c with
    | none => exact (untouched (by simp [cancels, hc]) rfl).symm
    | some j =>
      rw [getElem?_modify_handles j .fire hh]
      by_cases hj : j = i
      · rw [if_pos hj, touched_of_cancels (by simp [cancels, hc, hj])]
      · rw [if_neg hj, untouched (by simp [cancels, hc, hj]) rfl, hh]
  | cancelRemoved j =>
    simp only [step]
    split
    · rename_i hr
      rw [getElem?_modify_handles j .fire hh]
      by_cases hj : j = i
      · rw [if_pos hj, touched_of_cancels (by simpa [cancels, hj] using hj ▸ hr)]
      · rw [if_neg hj, untouched (by simp [cancels, hj]) rfl, hh]
    · refine (untouched (decide_eq_false ?_) rfl).symm
      rintro ⟨rfl, hr⟩
      contradiction
  | setExit j outcome =>
    simp only [step]
    rw [getElem?_modify_handles j _ hh]
    by_cases hj : j = i <;> simp [touched, Step.exit?, cancels, Handle.recordExit, hj]
  | _ => exact (untouched rfl rfl).symm

theorem not_cancels_of_takes (hs : s.takes c = true) :
    l.cancels s i = false ∧ s.exit? i = none := by
  cases s <;> first | exact ⟨rfl, rfl⟩ | cases hs

theorem step_setExit_of_recorded (hh : l.handles[i]? = some h) (he : h.exit.isSome = true)
    (o : ExitOutcome) : l.step (.setExit i o) = (l, .flag false) := by
  have hsame : l.handles.modify i (.recordExit o) = l.handles := by
    refine List.ext_getElem? fun j => ?_
    rw [List.getElem?_modify]
    by_cases hj : i = j
    · have hkeep : h.recordExit o = h := congrArg (Handle.mk _ _ _ _ _) (Option.or_of_isSome he)
      simp [← hj, hh, hkeep]
    · simp [hj]
  simp [step, modify, hsame, hh, he]

theorem removed_step (hl : l.Lodged) (s : Step) :
    (l.step s).1.removed = l.removed ++ (l.step s).2.returned.map (·.1) := by
  cases s with
  | set c pid spec sink => simp [step, Ledger.set, Reply.returned, hl.map_toList_shown?]
  | delete c => simp [step, Ledger.delete, Reply.returned, hl.map_toList_shown?]
  | drain =>
    simp only [step, Ledger.drain, Reply.returned, List.map_map]
    exact congrArg (l.removed ++ ·) hl.map_drained.symm
  | cancel c =>
    simp only [step]
    split <;> simp [Reply.returned, modify]
  | cancelRemoved j =>
    simp only [step]
    split <;> simp [Reply.returned, modify]
  | _ => simp [step, Reply.returned, modify]

/-! ### Any number of steps -/

theorem removed_run (hl : l.Lodged) (steps : List Step) :
    (l.run steps).removed = l.removed ++ (l.returned steps).map (·.1) := by
  induction steps generalizing l with
  | nil => simp [run, returned, views]
  | cons s rest ih =>
    rw [run_cons, ih (hl.step s), removed_step hl, returned_cons, List.map_append,
      List.append_assoc]

theorem kept_run (hh : l.handles[i]? = some h) (steps : List Step) :
    ∃ h', (l.run steps).handles[i]? = some h' ∧ l.Kept steps i h h' := by
  induction steps generalizing l h with
  | nil =>
    have hnone : ¬ l.Sometime [] fun l s => l.cancels s i = true := by
      rintro ⟨before, s, rest, heq, -⟩
      simp at heq
    exact ⟨h, hh, rfl, by simp [hnone], by simp⟩
  | cons s rest ih =>
    obtain ⟨h', hh', hk⟩ := ih (getElem?_step hh s)
    refine ⟨h', hh', hk.fresh, ?_, ?_⟩
    · rw [hk.fired, sometime_cons_iff, ← or_assoc]
      simp [touched]
    · rw [hk.exit, List.findSome?_cons]
      cases hs : s.exit? i <;> simp [touched, hs]

theorem getElem?_put (steps : List Step) (hs : s.handle? = some h) :
    (({} : Ledger).run (steps ++ [s])).handles[(steps.filterMap Step.handle?).length]? =
      some h := by
  cases s with
  | set c pid spec sink =>
    obtain rfl := Option.some.inj hs
    rw [run_concat, ← length_handles_run]
    exact List.getElem?_concat_length
  | _ => cases hs

/-! ### Who reaches a handle, and where it is seen -/

/-- Only what is aimed at a handle reaches it: a cancel fires its token, and the first write
records its exit. Nothing else does, whatever is put in or taken out. -/
structure Private (l : Ledger) (i : Nat) (h : Handle) : Prop where
  others : ∀ s, l.cancels s i = false → s.exit? i = none → (l.step s).1.handles[i]? = some h
  moved : ∀ s c, s.takes c = true → (l.step s).1.handles[i]? = some h
  cancelled : ∀ s, l.cancels s i = true → (l.step s).1.handles[i]? = some h.fire
  recorded : h.exit = none → ∀ o, (l.step (.setExit i o)).2 = .flag true ∧
    (l.step (.setExit i o)).1.handles[i]? = some { h with exit := some o }
  refused : h.exit ≠ none → ∀ o, l.step (.setExit i o) = (l, .flag false)

theorem private_of_getElem? (hh : l.handles[i]? = some h) : l.Private i h where
  others s hc he := by rw [getElem?_step hh, touched_of_not_cancels hc he]
  moved s c hs := by
    obtain ⟨hc, he⟩ := not_cancels_of_takes hs
    rw [getElem?_step hh, touched_of_not_cancels hc he]
  cancelled s hc := by rw [getElem?_step hh, touched_of_cancels hc]
  recorded he o := by
    refine ⟨by simp [step, hh, he], ?_⟩
    rw [getElem?_step hh]
    simp [touched, cancels, Step.exit?, he]
  refused he o := step_setExit_of_recorded hh (Option.isSome_iff_ne_none.mpr he) o

/-- A handle is on show or removed, and shows its state there. -/
structure Seen (l : Ledger) (i : Nat) (h : Handle) : Prop where
  somewhere : (∃ c, l.current.get c = some i) ∨ i ∈ l.removed
  shown : ∀ c, l.current.get c = some i → (l.step (.get c)).2 = .handle (some h) ∧
    (l.step (.status c)).2 = .status (some h.status) ∧ h.status ∈ l.snapshot
  removed : i ∈ l.removed → (l.step (.removedStatus i)).2 = .status (some h.status)

theorem seen_run {steps : List Step} (hh : (({} : Ledger).run steps).handles[i]? = some h) :
    (({} : Ledger).run steps).Seen i h where
  somewhere := by
    have hi : i ∈ List.range' 0 (steps.filterMap Step.handle?).length := by
      simpa [← length_handles_run] using (List.getElem?_eq_some_iff.mp hh).1
    rcases List.mem_append.mp ((custody_run lodged_empty steps).mem_iff.mpr hi) with hr | hn
    · exact .inr (by rwa [removed_run lodged_empty])
    · obtain ⟨⟨c, j⟩, hc, rfl⟩ := List.mem_map.mp hn
      exact .inl ⟨c, Slots.mem_toList.mp hc⟩
  shown c hc := by
    have hs : (({} : Ledger).run steps).shown? c = some (i, h) := shown?_eq_some_iff.mpr ⟨hc, hh⟩
    have hstatus : (({} : Ledger).run steps).status? c = some h.status := by simp [status?, hs]
    refine ⟨by simp [step, hs], by simp [step, hstatus], ?_⟩
    exact List.mem_map_of_mem (mem_entries.mpr hs)
  removed hr := by simp [step, removed?, hr, hh]

/-- **The state of a handle is its own.** Put a handle in at any time, and do whatever you like
afterwards. What it was put in with has stayed. Its token has fired just if a step cancelled it,
as what a channel showed or as a removed handle. Its exit is the first that was written since.
Only a cancel of it and a first write of its exit reach it, and not what is done to others, nor
what puts handles in or takes them out. It is on show or was given back, and shows its state
there. -/
theorem handle_state_is_private {s : Step} {h₀ : Handle} (hs : s.handle? = some h₀)
    (before after : List Step) :
    let i := (before.filterMap Step.handle?).length
    let l₀ := ({} : Ledger).run (before ++ [s])
    let l := l₀.run after
    ∃ h, l.handles[i]? = some h ∧
      h.channel = h₀.channel ∧ h.pid = h₀.pid ∧ h.spec = h₀.spec ∧ h.sink = h₀.sink ∧
      (h.fired = true ↔ l₀.Sometime after fun l s => l.cancels s i = true) ∧
      h.exit = after.findSome? (Step.exit? i) ∧
      l.Private i h ∧ l.Seen i h ∧
      (i ∈ l.removed ↔ i ∈ (({} : Ledger).returned (before ++ s :: after)).map (·.1)) ∧
      h.status =
        { channel := h₀.channel, pid := h₀.pid, source := h₀.spec.source
          looped := h₀.spec.looped, sink := h₀.sink, exit := after.findSome? (Step.exit? i) } := by
  intro i l₀ l
  have hl : l = ({} : Ledger).run (before ++ s :: after) := by
    simp only [l, l₀, run, List.foldl_append, List.foldl_cons, List.foldl_nil]
  have hunfired : h₀.fired = false ∧ h₀.exit = none := by
    cases s <;> cases hs
    exact ⟨rfl, rfl⟩
  obtain ⟨h, hh, hk⟩ := kept_run (getElem?_put before hs) after
  have hfields := hk.fresh
  simp only [Handle.fresh, Handle.mk.injEq, and_true] at hfields
  obtain ⟨hchannel, hpid, hspec, hsink⟩ := hfields
  have hfired := hk.fired
  have hexit := hk.exit
  rw [hunfired.1] at hfired
  rw [hunfired.2, Option.none_or] at hexit
  refine ⟨h, hh, hchannel, hpid, hspec, hsink, by simpa using hfired, hexit,
    private_of_getElem? hh, hl ▸ seen_run (hl ▸ hh), ?_, ?_⟩
  · rw [hl, removed_run lodged_empty, List.nil_append]
  · rw [Handle.status, hchannel, hpid, hspec, hsink, hexit]

/-- A handle is replaced before its channel is cancelled, so that its token does not fire. Its
exit is written twice, before and after it was replaced. -/
theorem handle_state_is_private_replaced :
    let spec : StreamSpec := { source := "tone" }
    let put : Step := .set .video (some 7) spec "a"
    let after : List Step := [.setExit 0 .completed, .set .video none spec "b", .cancel .video,
      .setExit 0 (.failed none)]
    let l := ({} : Ledger).run ([put] ++ after)
    put.handle? = some { channel := .video, pid := some 7, spec := spec, sink := "a" } ∧
      ∃ h, l.handles[0]? = some h ∧ h.fired = false ∧ h.exit = some .completed ∧
        (l.step (.removedStatus 0)).2 = .status (some h.status) ∧
        (l.step (.cancelRemoved 0)).1.handles[0]? = some h.fire ∧
        l.step (.setExit 0 .cancelled) = (l, .flag false) := by
  intro spec put after l
  have hput : put.handle? = some { channel := .video, pid := some 7, spec := spec, sink := "a" } :=
    rfl
  obtain ⟨h, hh, -, -, -, -, -, hexit, hprivate, hseen, -, -⟩ :=
    handle_state_is_private hput [] after
  have hfired : (l.handles[0]?.map (·.fired)) = some false := by decide
  rw [show l.handles[0]? = some h from hh, Option.map_some, Option.some.injEq] at hfired
  have hexit : h.exit = some .completed := hexit
  exact ⟨hput, h, hh, hfired, hexit, hseen.removed (by decide), hprivate.cancelled _ (by decide),
    hprivate.refused (by simp [hexit]) _⟩

end Ledger
end StreamSupervisor
