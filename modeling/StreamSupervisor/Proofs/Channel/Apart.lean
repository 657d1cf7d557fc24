import StreamSupervisor.Proofs.Channel.Alone
import StreamSupervisor.Proofs.Lock.Progress

/-! # Channels apart

Leave out of a session all calls on one channel, and the ends of the processes there. If the
script says the same as before to the launches on the other channel, then nothing that is seen
of the other channel changes, but that calls and processes are counted without those left out.
-/

namespace StreamSupervisor

/-- Two lists say the same wherever both say something. -/
def Agree {α : Type} (as bs : List α) : Prop :=
  ∀ (i : Nat) a b, as[i]? = some a → bs[i]? = some b → a = b

theorem Agree.of_append {α : Type} {as bs as' bs' : List α} (h : Agree (as ++ as') (bs ++ bs')) :
    Agree as bs := by
  intro i a b ha hb
  refine h i a b ?_ ?_
  · rw [List.getElem?_append_left (List.getElem?_eq_some_iff.mp ha).1, ha]
  · rw [List.getElem?_append_left (List.getElem?_eq_some_iff.mp hb).1, hb]

theorem Agree.of_toList_append {α : Type} {a b : Option α} {as bs : List α}
    (h : Agree (a.toList ++ as) (b.toList ++ bs)) (hs : b.isSome = a.isSome) : Agree as bs := by
  cases a with
  | none =>
    obtain rfl := Option.not_isSome_iff_eq_none.mp (by simpa using hs)
    exact h
  | some a =>
    obtain ⟨b, rfl⟩ := Option.isSome_iff_exists.mp hs
    exact fun i => h (i + 1)

namespace Call

variable {c d : Channel} {call : Call} {r : Request}

/-- Whether a call has to do with a single channel, or with none for want of a valid key. -/
def isLocal : Call → Bool
  | start .. | stop _ | status _ | isRunning _ | contains _ => true
  | list | stopAll | shutdown | isShutDown | pendingReapers | len | isEmpty => false

def channel? : Call → Option Channel
  | start key _ | stop key | status key | isRunning key => Channel.ofKey? key
  | contains c => some c
  | list | stopAll | shutdown | isShutDown | pendingReapers | len | isEmpty => none

def stays (c : Channel) (call : Call) : Bool := decide (call.channel? ≠ some c.other)

theorem stays_iff (h : call.channel? = some d) : call.stays c = true ↔ d = c := by
  cases c <;> cases d <;> simp [stays, h, Channel.other]

theorem channel?_request (hl : call.isLocal = true) (hr : call.request? = some r) :
    ∃ d, call.channel? = some d ∧ r.channel? = some d := by
  cases call <;> simp only [isLocal, Bool.false_eq_true] at hl <;>
    simp only [request?, Option.bind_eq_some_iff, Option.map_eq_some_iff, Option.some.injEq,
      Option.ite_none_right_eq_some] at hr
  case start key spec =>
    obtain ⟨d, hd, -, rfl⟩ := hr
    exact ⟨d, hd, rfl⟩
  case contains d =>
    subst hr
    exact ⟨d, rfl, rfl⟩
  all_goals
    obtain ⟨d, hd, rfl⟩ := hr
    exact ⟨d, hd, rfl⟩

theorem check_eq_of_isLocal {k k' : Supervisor Script} (hl : call.isLocal = true) :
    k'.check call = k.check call := by
  cases call <;> first | rfl | cases hl

end Call

/-- The number of a call among those that stay, if it is one. -/
def rankOn (c : Channel) (calls : List Call) (n : Nat) : Option Nat :=
  if calls[n]?.any (·.stays c) then some ((calls.take n).countP (·.stays c)) else none

theorem rankOn_eq {c : Channel} {calls : List Call} {n : Nat} {call : Call}
    (h : calls[n]? = some call) :
    rankOn c calls n =
      if call.stays c then some ((calls.take n).countP (·.stays c)) else none := by
  simp [rankOn, h]

theorem rankOn_of_serve {c : Channel} {calls : List Call} {n : Nat} {r : Request}
    (hm : (Move.serve n r).Numbered calls) (hl : ∀ call ∈ calls, call.isLocal = true) :
    ∃ d, r.channel? = some d ∧ ((rankOn c calls n).isSome = true ↔ d = c) := by
  obtain ⟨call, hc, hr⟩ := hm
  obtain ⟨d, hd, hrd⟩ :=
    Call.channel?_request (hl call (List.mem_of_getElem? hc)) (Call.asks_iff.mp hr)
  refine ⟨d, hrd, ?_⟩
  rw [rankOn_eq hc, ← Call.stays_iff hd]
  split <;> simp [*]

namespace Move

def isCall : Move → Bool
  | issue .. | serve .. => true
  | script _ | tell .. | guard _ | settle => false

def on? (f : Nat → Option Nat) : Move → Option Move
  | issue n call => (f n).map (issue · call)
  | serve n r => (f n).map (serve · r)
  | script _ | tell .. | guard _ | settle => none

end Move

namespace Supervisor

variable {k k' : Supervisor Script} {c : Channel} {m m' : Move} {ms : List Move} {call : Call}
  {all : List Call}

theorem announce_of_isLocal (hl : call.isLocal = true) : k.announce call = k :=
  announce_of_ne_shutdown fun h => by cases h ▸ hl

theorem shutDown_move_of_isLocal (hs : k.shutDown = false) (hm : m.Numbered all)
    (hall : ∀ call ∈ all, call.isLocal = true) : (k.move m).1.shutDown = false := by
  rw [Bool.eq_false_iff, ne_eq, shutDown_move]
  rintro (h | ⟨n, rfl⟩)
  · simp [hs] at h
  · cases hall .shutdown (List.mem_of_getElem? hm)

/-- What the script says to a launch on a channel, if a move calls the launcher there. -/
def reply? (k : Supervisor Script) (c : Channel) : Move → Option ScriptedLaunch
  | .serve _ (.start d s) =>
    if d = c ∧ k.launches (.start d s) = true then some k.launcher.next else none
  | _ => none

def replies (k : Supervisor Script) (c : Channel) : List Move → List ScriptedLaunch
  | [] => []
  | m :: ms => (k.reply? c m).toList ++ (k.move m).1.replies c ms

theorem replies_append (k : Supervisor Script) (c : Channel) (ms ms' : List Move) :
    k.replies c (ms ++ ms') = k.replies c ms ++ (k.after ms).replies c ms' := by
  induction ms generalizing k with
  | nil => rfl
  | cons m ms ih => simp [replies, ih]

/-- A supervisor has to do with nothing but one channel of another. -/
structure Mirrors (c : Channel) (k k' : Supervisor Script) : Prop where
  housed : k.Housed
  shutDown : k.shutDown = false
  alone : ∃ pids l, k.Named c pids ∧ k' = k.alone c pids l

theorem Mirrors.move_of_none (h : Mirrors c k k') (hm : m.Numbered all) (hcall : m.isCall = true)
    (hall : ∀ call ∈ all, call.isLocal = true) (hon : m.on? (rankOn c all) = none) :
    Mirrors c (k.move m).1 k' ∧ traceOn c (rankOn c all) (k.move m).2 = [] ∧
      k.reply? c m = none := by
  have hk : (k.move m).1.Housed := h.housed.move fun _ _ _ h => by cases h ▸ hcall
  have hs : (k.move m).1.shutDown = false := shutDown_move_of_isLocal h.shutDown hm hall
  obtain ⟨pids, l, hn, rfl⟩ := h.alone
  cases m with
  | issue n call =>
    have hlocal := hall call (List.mem_of_getElem? hm)
    have hrank : rankOn c all n = none := by simpa [Move.on?] using hon
    refine ⟨⟨hk, hs, pids, l, ?_, ?_⟩, ?_, rfl⟩
    · simpa only [move, announce_of_isLocal hlocal] using hn
    · simp only [move, announce_of_isLocal hlocal]
    · simp only [move]
      split <;> simp [Happening.on?, hrank]
  | serve n r =>
    obtain ⟨d, hrd, hd⟩ := rankOn_of_serve (c := c) hm hall
    have hrank : rankOn c all n = none := by simpa [Move.on?] using hon
    have hne : d ≠ c := by
      rw [ne_eq, ← hd, hrank]
      simp
    obtain ⟨halone, hnamed, htrace⟩ :=
      alone_serve_of_ne (l := l) (f := rankOn c all) h.housed hn hrd hne
    refine ⟨⟨hk, hs, pids, l, hnamed, halone.symm⟩, ?_, ?_⟩
    · simp only [move, traceOn_append, htrace]
      cases (k.serve r).answer <;> simp [Happening.on?, hrank]
    · cases r with
      | start e s =>
        obtain rfl := Option.some.inj hrd
        simp [reply?, hne]
      | _ => rfl
  | _ => cases hcall

theorem Mirrors.move (h : Mirrors c k k') (hm : m.Numbered all)
    (hall : ∀ call ∈ all, call.isLocal = true) (hon : m.on? (rankOn c all) = some m')
    (hreply : ∀ a b, k.reply? c m = some a → k'.reply? c m' = some b → a = b) :
    Mirrors c (k.move m).1 (k'.move m').1 ∧
      SameTrace (k.Renumbered c) (traceOn c (rankOn c all) (k.move m).2)
        (traceOn c some (k'.move m').2) ∧
      (k'.reply? c m').isSome = (k.reply? c m).isSome := by
  have hk : (k.move m).1.Housed := h.housed.move fun _ _ _ h => by cases h ▸ hon
  have hs : (k.move m).1.shutDown = false := shutDown_move_of_isLocal h.shutDown hm hall
  obtain ⟨pids, l, hn, rfl⟩ := h.alone
  cases m with
  | issue n call =>
    obtain ⟨n', hrank, rfl⟩ := Option.map_eq_some_iff.mp hon
    have hlocal := hall call (List.mem_of_getElem? hm)
    refine ⟨⟨hk, hs, pids, l, ?_, ?_⟩, ?_, rfl⟩
    · simpa only [Supervisor.move, announce_of_isLocal hlocal] using hn
    · simp only [Supervisor.move, announce_of_isLocal hlocal]
    · have hcheck : (k.alone c pids l).check call = k.check call :=
        Call.check_eq_of_isLocal hlocal
      simp only [Supervisor.move, announce_of_isLocal hlocal, hcheck]
      split
      · simpa [Happening.on?, hrank] using Happening.Same.refl _
      · exact .nil
  | serve n r =>
    obtain ⟨n', hrank, rfl⟩ := Option.map_eq_some_iff.mp hon
    obtain ⟨d, hrd, hd⟩ := rankOn_of_serve (c := c) hm hall
    obtain rfl : d = c := hd.mp (by simp [hrank])
    have hnext (hl : k.launches r = true) : l.next = k.launcher.next := by
      cases r with
      | start e s =>
        obtain rfl := Option.some.inj hrd
        exact (hreply _ _ (by simp [reply?, hl]) (by simp [reply?, alone_launches, hl]; rfl)).symm
      | _ => cases hl
    obtain ⟨⟨pids', l', hstate, hnamed⟩, ⟨a, b, ha, hb, hsame⟩, htrace⟩ :=
      alone_serve (f := rankOn d all) (g := some) h.housed hn h.shutDown hrd hnext
    refine ⟨⟨hk, hs, pids', l', hnamed, hstate⟩, ?_, ?_⟩
    · simp only [Supervisor.move, traceOn_append, htrace, ha, hb]
      refine (SameTrace.refl _).append ?_
      simpa [Happening.on?, hrank] using Happening.Same.answered hsame
    · cases r with
      | start e s =>
        obtain rfl := Option.some.inj hrd
        cases hl : k.launches (.start e s) <;> simp [reply?, alone_launches, hl]
      | _ => rfl
  | _ => cases hon

theorem Mirrors.after {as bs : List ScriptedLaunch} (h : Mirrors c k k')
    (hms : ∀ m ∈ ms, m.Numbered all ∧ m.isCall = true) (hall : ∀ call ∈ all, call.isLocal = true)
    (hreplies : Agree (k.replies c ms ++ as)
      (k'.replies c (ms.filterMap (Move.on? (rankOn c all))) ++ bs)) :
    Mirrors c (k.after ms) (k'.after (ms.filterMap (Move.on? (rankOn c all)))) ∧
      SameTrace ((k.after ms).Renumbered c) (traceOn c (rankOn c all) (k.trace ms))
        (traceOn c some (k'.trace (ms.filterMap (Move.on? (rankOn c all))))) ∧
      Agree as bs := by
  induction ms generalizing k k' with
  | nil => exact ⟨h, .nil, hreplies⟩
  | cons m ms ih =>
    obtain ⟨⟨hm, hcall⟩, hms⟩ := List.forall_mem_cons.mp hms
    cases hon : m.on? (rankOn c all) with
    | none =>
      obtain ⟨hmirrors, htrace, hreply⟩ := h.move_of_none hm hcall hall hon
      rw [List.filterMap_cons_none hon] at hreplies ⊢
      rw [replies, hreply] at hreplies
      obtain ⟨hafter, htraces, hrest⟩ := ih hmirrors hms hreplies
      exact ⟨hafter, by simpa [htrace] using htraces, hrest⟩
    | some m' =>
      rw [List.filterMap_cons_some hon] at hreplies ⊢
      rw [replies, replies, List.append_assoc, List.append_assoc] at hreplies
      have hfirst (a b : ScriptedLaunch) (ha : k.reply? c m = some a)
          (hb : k'.reply? c m' = some b) : a = b :=
        hreplies 0 a b (by simp [ha]) (by simp [hb])
      obtain ⟨hmirrors, htrace, hreply⟩ := h.move hm hall hon hfirst
      obtain ⟨hafter, htraces, hrest⟩ := ih hmirrors hms (hreplies.of_toList_append hreply)
      refine ⟨hafter, ?_, hrest⟩
      rw [trace_cons, trace_cons, traceOn_append, traceOn_append]
      exact (htrace.mono (Renumbered.mono (k.channels_after (m :: ms)))).append htraces

theorem Mirrors.of_alone {k₁ : Supervisor Script} (h : Mirrors c k k')
    (hm : m = .settle ∨ ∃ i collected, m = .tell i collected)
    (halone : ∀ pids l, k' = k.alone c pids l → k₁ = (k.move m).1.alone c pids l) :
    Mirrors c (k.move m).1 k₁ := by
  obtain ⟨pids, l, hn, hk⟩ := h.alone
  refine ⟨h.housed.move ?_, ?_, pids, l, hn.evolves (evolves_move (.inr ?_)), halone pids l hk⟩
  · rcases hm with rfl | ⟨i, collected, rfl⟩ <;> simp
  · rw [Bool.eq_false_iff, ne_eq, shutDown_move]
    rcases hm with rfl | ⟨i, collected, rfl⟩ <;> simp [h.shutDown]
  · rcases hm with rfl | ⟨i, collected, rfl⟩ <;> simp

theorem Mirrors.tell {i : Nat} {collected : Collected} (h : Mirrors c k k')
    (hi : ∀ p, k.processes[i]? = some p → p.channel = c) :
    Mirrors c (k.move (.tell i collected)).1 (k'.move (.tell (k.rank c i) collected)).1 :=
  h.of_alone (.inr ⟨i, collected, rfl⟩) fun _ _ hk => hk ▸ alone_tell hi

theorem Mirrors.tell_of_ne {i : Nat} {collected : Collected} {p : Process} (h : Mirrors c k k')
    (hp : k.processes[i]? = some p) (hc : p.channel ≠ c) :
    Mirrors c (k.move (.tell i collected)).1 k' :=
  h.of_alone (.inr ⟨i, collected, rfl⟩) fun _ _ hk => hk.trans (alone_tell_of_ne hp hc).symm

theorem Mirrors.settle (h : Mirrors c k k') :
    Mirrors c (k.move .settle).1 (k'.move .settle).1 :=
  h.of_alone (.inl rfl) fun _ _ hk => hk ▸ alone_settle ..

end Supervisor

namespace Line

variable {c : Channel} {all calls : List Call} {l : Line} {call : Call}

def alone (l : Line) (c : Channel) (all : List Call) : Line where
  held := l.held
  queue := l.queue.filterMap fun p => (rankOn c all p.1).map (·, p.2)
  issued := (all.take l.issued).countP (·.stays c)

theorem alone_issue (hn : all[l.issued]? = some call) :
    (l.issueAll [call]).alone c all = (l.alone c all).issueAll ([call].filter (·.stays c)) := by
  have hissued : (all.take (l.issued + 1)).countP (·.stays c) =
      (all.take l.issued).countP (·.stays c) + if call.stays c then 1 else 0 := by
    rw [List.take_add_one, hn, List.countP_append]
    simp
  cases hc : call.stays c <;> cases hh : l.held <;> cases hr : call.request? <;>
    simp [alone, issueAll, hh, hr, hc, hissued, requestsFrom_cons, rankOn_eq hn]

theorem callMoves_alone_one (hn : all[l.issued]? = some call) :
    (l.callMoves [call]).filterMap (Move.on? (rankOn c all)) =
      (l.alone c all).callMoves ([call].filter (·.stays c)) := by
  cases hc : call.stays c <;> cases hh : l.held <;> cases hr : call.request? <;>
    simp [alone, callMoves, Move.on?, hh, hr, hc, rankOn_eq hn]

theorem alone_issueAll
    (hn : ∀ (i : Nat) call, calls[i]? = some call → all[l.issued + i]? = some call) :
    (l.issueAll calls).alone c all = (l.alone c all).issueAll (calls.filter (·.stays c)) ∧
      (l.callMoves calls).filterMap (Move.on? (rankOn c all)) =
        (l.alone c all).callMoves (calls.filter (·.stays c)) := by
  induction calls generalizing l with
  | nil => exact ⟨by simp, rfl⟩
  | cons call rest ih =>
    have hfirst : all[l.issued]? = some call := hn 0 call rfl
    obtain ⟨hline, hmoves⟩ := ih (l := l.issueAll [call]) fun i d hd => by
      rw [← hn (i + 1) d hd]
      exact congrArg (all[·]?) (by simp [issueAll]; omega)
    rw [← List.singleton_append, issueAll_append, callMoves_append, List.filter_append,
      issueAll_append, callMoves_append, List.filterMap_append, hline, hmoves, alone_issue hfirst,
      callMoves_alone_one hfirst]
    exact ⟨rfl, rfl⟩

theorem isCall_of_mem_callMoves {m : Move} (h : m ∈ l.callMoves calls) : m.isCall = true := by
  obtain ⟨p, -, hm⟩ := List.mem_flatMap.mp h
  rcases List.mem_cons.mp hm with rfl | hm
  · rfl
  · split at hm
    · cases hm
    · obtain ⟨r, -, rfl⟩ := Option.map_eq_some_iff.mp (Option.mem_toList.mp hm)
      rfl

end Line

def Step.isLocal (s : Step) : Bool :=
  s.calls.all (·.isLocal) && match s with
    | .guard g => g.reads
    | _ => true

def Step.isScript : Step → Bool
  | script _ => true
  | _ => false

theorem Step.calls_of_isScript {s : Step} (h : s.isScript = true) : s.calls = [] := by
  cases s <;> first | rfl | cases h

namespace Session

open Supervisor

variable {c : Channel} {all before : List Call} {x y : Session Script} {s s' : Step}

/-- What is left of a step when the other channel is left out. Processes are told to end by
their numbers on the channel. What is written to the script is left out too. -/
def stepOn? (x : Session Script) (c : Channel) : Step → Option Step
  | .call call => if call.stays c then some (.call call) else none
  | .batch calls => some (.batch (calls.filter (·.stays c)))
  | .script _ => none
  | .exit i collected =>
    if x.supervisor.processes[i]?.all (·.channel = c) then
      some (.exit (x.supervisor.rank c i) collected)
    else none
  | .hold => some .hold
  | .release => some .release
  | .guard g => some (.guard g)

def stepsOn (x : Session Script) (c : Channel) : List Step → List Step
  | [] => []
  | s :: rest => (x.stepOn? c s).toList ++ (x.step s).state.stepsOn c rest

/-- Some steps are what is left of others, apart from what they write to the script. -/
def LeftOf (x : Session Script) (c : Channel) (steps steps' : List Step) : Prop :=
  steps'.filter (fun s => !s.isScript) = x.stepsOn c steps

instance (x : Session Script) (c : Channel) (steps steps' : List Step) :
    Decidable (x.LeftOf c steps steps') :=
  inferInstanceAs (Decidable (_ = _))

def replies (x : Session Script) (c : Channel) (steps : List Step) : List ScriptedLaunch :=
  x.supervisor.replies c (x.moves steps)

/-- A session has to do with nothing but one channel of another, in which no call but those of
a list is issued. -/
structure Mirrors (c : Channel) (all : List Call) (x y : Session Script) : Prop where
  supervisor : Supervisor.Mirrors c x.supervisor y.supervisor
  line : y.line = x.line.alone c all
  settled : y.supervisor.Settled

def actMovesOn (x y : Session Script) (c : Channel) (s : Step) : List Move :=
  match x.stepOn? c s with
  | some s' => y.actMoves s'
  | none => []

theorem Mirrors.act {as bs : List ScriptedLaunch} (h : Mirrors c all x y)
    (hl : s.isLocal = true) (hall : ∀ call ∈ all, call.isLocal = true)
    (hn : ∀ (i : Nat) call, s.calls[i]? = some call → all[x.issued + i]? = some call)
    (hm : ∀ m ∈ x.actMoves s, m.Numbered all)
    (hreplies : Agree (x.supervisor.replies c (x.actMoves s) ++ as)
      (y.supervisor.replies c (x.actMovesOn y c s) ++ bs)) :
    Supervisor.Mirrors c (x.supervisor.after (x.actMoves s))
        (y.supervisor.after (x.actMovesOn y c s)) ∧
      SameTrace ((x.supervisor.after (x.actMoves s)).Renumbered c)
        (traceOn c (rankOn c all) (x.supervisor.trace (x.actMoves s)))
        (traceOn c some (y.supervisor.trace (x.actMovesOn y c s))) ∧
      Agree as bs := by
  -- calls, alone, in a batch or in line, are dealt with move by move
  have hcalls (hcall : ∀ m ∈ x.actMoves s, m.isCall = true)
      (hon : (x.actMoves s).filterMap (Move.on? (rankOn c all)) = x.actMovesOn y c s) := by
    rw [← hon] at hreplies
    have := h.supervisor.after (fun m hmem => ⟨hm m hmem, hcall m hmem⟩) hall hreplies
    rwa [hon] at this
  have hline (calls : List Call)
      (hn : ∀ (i : Nat) call, calls[i]? = some call → all[x.issued + i]? = some call) :
      (x.line.callMoves calls).filterMap (Move.on? (rankOn c all)) =
        y.line.callMoves (calls.filter (·.stays c)) := by
    rw [h.line]
    exact (Line.alone_issueAll hn).2
  cases s with
  | call call =>
    refine hcalls (fun m hmem => ?_) ?_
    · rw [actMoves_eq] at hmem
      exact Line.isCall_of_mem_callMoves hmem
    · rw [actMoves_eq]
      refine (hline [call] hn).trans ?_
      simp only [actMovesOn, stepOn?]
      cases hc : call.stays c with
      | true => simp [hc, actMoves_eq, Line.moves, Step.calls]
      | false => simp [hc, Line.callMoves]
  | batch calls =>
    refine hcalls (fun m hmem => ?_) ?_
    · rw [actMoves_eq] at hmem
      exact Line.isCall_of_mem_callMoves hmem
    · rw [actMoves_eq]
      refine (hline calls hn).trans ?_
      simp only [actMovesOn, stepOn?, actMoves_eq]
      rfl
  | release =>
    refine hcalls (fun m hmem => ?_) ?_
    · obtain ⟨p, -, rfl⟩ := List.mem_map.mp hmem
      rfl
    · have hqueue : y.queue = x.queue.filterMap fun p => (rankOn c all p.1).map (·, p.2) :=
        congrArg Line.queue h.line
      simp only [actMovesOn, stepOn?, actMoves, hqueue, List.filterMap_map, List.map_filterMap]
      refine List.filterMap_congr fun p _ => ?_
      simp [Move.on?, Function.comp_def]
  | script launches =>
    obtain ⟨pids, l, hnamed, hy⟩ := h.supervisor.alone
    exact ⟨⟨h.supervisor.housed, h.supervisor.shutDown, pids, l, hnamed, hy⟩, .nil, hreplies⟩
  | exit i collected =>
    simp only [actMovesOn, stepOn?] at hreplies ⊢
    split at hreplies
    · rename_i s' hs
      obtain ⟨hon, hs⟩ := Option.ite_none_right_eq_some.mp hs
      obtain rfl := Option.some.inj hs
      exact ⟨h.supervisor.tell fun p hp => by simpa [hp] using hon, .nil, hreplies⟩
    · rename_i hs
      obtain ⟨p, hp, hc⟩ : ∃ p, x.supervisor.processes[i]? = some p ∧ p.channel ≠ c := by
        cases hp : x.supervisor.processes[i]? <;> simp_all
      exact ⟨h.supervisor.tell_of_ne hp hc, .nil, hreplies⟩
  | hold => exact ⟨h.supervisor, .nil, hreplies⟩
  | guard g =>
    have hreads : g.reads = true := by simpa [Step.isLocal, Step.calls] using hl
    have hheld : y.held = x.held := congrArg Line.held h.line
    have hsame (k : Supervisor Script) : k.after [.guard g] = k := by
      cases g <;> first | rfl | cases hreads
    simp only [actMovesOn, stepOn?, actMoves, hheld] at hreplies ⊢
    cases hh : x.held with
    | true =>
      simp only [hh, if_true] at hreplies ⊢
      rw [hsame, hsame]
      exact ⟨h.supervisor, .nil, hreplies⟩
    | false =>
      simp only [hh, Bool.false_eq_true, if_false] at hreplies ⊢
      exact ⟨h.supervisor, .nil, hreplies⟩

theorem alone_line
    (hn : ∀ (i : Nat) call, s.calls[i]? = some call → all[x.issued + i]? = some call) :
    (x.line.act s).alone c all =
      match x.stepOn? c s with
      | some s' => (x.line.alone c all).act s'
      | none => x.line.alone c all := by
  cases s with
  | call call =>
    refine (Line.alone_issueAll hn).1.trans ?_
    cases hc : call.stays c <;> simp [stepOn?, hc, Step.calls, Line.act]
  | batch calls => exact (Line.alone_issueAll hn).1
  | hold => rfl
  | release => rfl
  | exit i collected =>
    simp only [stepOn?]
    split
    · rename_i s' hs
      obtain ⟨-, hs⟩ := Option.ite_none_right_eq_some.mp hs
      obtain rfl := Option.some.inj hs
      simp [Line.act, Step.calls]
    · simp [Line.act, Step.calls]
  | _ => simp [stepOn?, Line.act, Step.calls]

theorem replies_steps_append (x : Session Script) (c : Channel) (steps later : List Step) :
    x.replies c (steps ++ later) = x.replies c steps ++ (x.run steps).replies c later := by
  rw [replies, replies, replies, moves_append, replies_append, run_supervisor]

theorem trace_moves_append (x : Session Script) (steps later : List Step) :
    x.supervisor.trace (x.moves (steps ++ later)) = x.supervisor.trace (x.moves steps) ++
      (x.run steps).supervisor.trace ((x.run steps).moves later) := by
  rw [moves_append, trace_append, run_supervisor]

theorem Mirrors.step {as bs : List ScriptedLaunch} (h : Mirrors c all x y)
    (hl : s.isLocal = true) (hall : ∀ call ∈ all, call.isLocal = true)
    (hn : ∀ (i : Nat) call, s.calls[i]? = some call → all[x.issued + i]? = some call)
    (hm : ∀ m ∈ x.actMoves s, m.Numbered all)
    (hreplies : Agree (x.replies c [s] ++ as) (y.replies c (x.stepOn? c s).toList ++ bs)) :
    Mirrors c all (x.run [s]) (y.run (x.stepOn? c s).toList) ∧
      SameTrace ((x.run [s]).supervisor.Renumbered c)
        (traceOn c (rankOn c all) (x.supervisor.trace (x.moves [s])))
        (traceOn c some (y.supervisor.trace (y.moves (x.stepOn? c s).toList))) ∧ Agree as bs := by
  have hsettles (k : Supervisor Script) (ms : List Move) :
      k.replies c (ms ++ [.settle]) = k.replies c ms := by
    simp [replies_append, Supervisor.replies, reply?]
  have hsupervisor (x : Session Script) (s : Step) :
      (x.run [s]).supervisor = ((x.supervisor.after (x.actMoves s)).move .settle).1 := by
    rw [run_supervisor, Session.moves, after_append]
    rfl
  have hreplies' : Agree (x.supervisor.replies c (x.actMoves s) ++ as)
      (y.supervisor.replies c (x.actMovesOn y c s) ++ bs) := by
    cases hs : x.stepOn? c s <;>
      simpa [Session.replies, Session.moves, hsettles, actMovesOn, hs] using hreplies
  obtain ⟨hacted, htrace, hrest⟩ := h.act hl hall hn hm hreplies'
  have hsettled := hacted.settle
  rw [← hsupervisor] at hsettled
  have hline : (x.run [s]).line = x.line.act s := x.step_line s
  have hon := alone_line (c := c) hn
  rw [← h.line] at hon
  have htraces : SameTrace ((x.run [s]).supervisor.Renumbered c)
      (traceOn c (rankOn c all) (x.supervisor.trace (x.moves [s])))
      (traceOn c some (y.supervisor.trace (x.actMovesOn y c s))) := by
    rw [hsupervisor]
    have := htrace.mono (Renumbered.mono (channels_after _ [.settle]))
    simpa [Session.moves, traceOn_settle] using this
  cases hs : x.stepOn? c s with
  | none =>
    simp only [hs, actMovesOn] at hon htraces hsettled
    have hsame : (y.supervisor.move .settle).1 = y.supervisor :=
      congrArg Prod.fst h.settled.move_settle
    rw [after_nil, hsame] at hsettled
    exact ⟨⟨hsettled, (hline ▸ hon).symm, h.settled⟩, htraces, hrest⟩
  | some s' =>
    simp only [hs, actMovesOn] at hon htraces hsettled
    rw [← hsupervisor] at hsettled
    refine ⟨⟨hsettled, (y.step_line s').trans (hline ▸ hon).symm, y.settled_step s'⟩, ?_, hrest⟩
    simpa [Session.moves, traceOn_settle] using htraces

theorem Mirrors.scripts {scripts : List Step} (h : Mirrors c all x y)
    (hs : ∀ s ∈ scripts, s.isScript = true) :
    Mirrors c all x (y.run scripts) ∧
      traceOn c some (y.supervisor.trace (y.moves scripts)) = [] ∧ y.replies c scripts = [] := by
  induction scripts generalizing y with
  | nil => exact ⟨h, rfl, rfl⟩
  | cons s rest ih =>
    obtain ⟨hfirst, hrest⟩ := List.forall_mem_cons.mp hs
    obtain ⟨launches, rfl⟩ : ∃ launches, s = .script launches := by
      cases s with
      | script launches => exact ⟨launches, rfl⟩
      | _ => cases hfirst
    obtain ⟨pids, l, hn, hy⟩ := h.supervisor.alone
    let k : Supervisor Script :=
      { y.supervisor with launcher := y.supervisor.launcher.append launches }
    have hsettled : k.Settled := h.settled
    have hstep : (y.step (.script launches)).state.supervisor = k := by
      rw [step_supervisor]
      exact congrArg Prod.fst hsettled.move_settle
    have hone : Mirrors c all x (y.step (.script launches)).state := by
      refine ⟨⟨h.supervisor.housed, h.supervisor.shutDown, pids, l.append launches, hn, ?_⟩, ?_,
        y.settled_step _⟩
      · rw [hstep]
        simp only [k, hy]
        rfl
      · rw [step_line, ← h.line]
        exact y.line.issueAll_nil
    have hsettle : y.supervisor.trace (y.moves [.script launches]) = (k.move .settle).2 :=
      List.append_nil _
    obtain ⟨hrun, htrace, hreplies⟩ := ih hone hrest
    refine ⟨hrun, ?_, ?_⟩
    · rw [← List.singleton_append, trace_moves_append, traceOn_append, hsettle, traceOn_settle]
      exact htrace
    · rw [← List.singleton_append, replies_steps_append]
      exact hreplies

theorem exists_scripts {steps later : List Step} {o : Option Step}
    (ho : ∀ s ∈ o, s.isScript = false)
    (h : steps.filter (fun s => !s.isScript) = o.toList ++ later) :
    ∃ scripts rest, steps = scripts ++ (o.toList ++ rest) ∧ (∀ s ∈ scripts, s.isScript = true) ∧
      rest.filter (fun s => !s.isScript) = later := by
  cases o with
  | none => exact ⟨[], steps, rfl, by simp, h⟩
  | some s =>
    obtain ⟨scripts, rest, rfl, hscripts, -, hrest⟩ := List.filter_eq_cons_iff.mp h
    exact ⟨scripts, rest, rfl, by simpa using hscripts, hrest⟩

theorem isScript_of_stepOn? (h : s' ∈ x.stepOn? c s) : s'.isScript = false := by
  cases s <;> simp only [stepOn?, Option.mem_def, Option.ite_none_right_eq_some, Option.some.injEq,
    reduceCtorEq] at h
  case call | exit => obtain ⟨-, rfl⟩ := h; rfl
  all_goals subst h; rfl

theorem Mirrors.run {steps steps' : List Step} (h : Mirrors c all x y) (hx : x.Numbered before)
    (hcalls : before ++ steps.flatMap Step.calls = all) (hl : ∀ s ∈ steps, s.isLocal = true)
    (hall : ∀ call ∈ all, call.isLocal = true)
    (hsteps : x.LeftOf c steps steps')
    (hreplies : Agree (x.replies c steps) (y.replies c steps')) :
    Mirrors c all (x.run steps) (y.run steps') ∧
      SameTrace ((x.run steps).supervisor.Renumbered c)
        (traceOn c (rankOn c all) (x.supervisor.trace (x.moves steps)))
        (traceOn c some (y.supervisor.trace (y.moves steps'))) := by
  induction steps generalizing x y steps' before with
  | nil =>
    have hscripts : ∀ s ∈ steps', s.isScript = true := by
      simpa [LeftOf, stepsOn, List.filter_eq_nil_iff] using hsteps
    obtain ⟨hrun, htrace, -⟩ := h.scripts hscripts
    exact ⟨hrun, htrace ▸ .nil⟩
  | cons s rest ih =>
    obtain ⟨hfirst, hrest⟩ := List.forall_mem_cons.mp hl
    obtain ⟨scripts, rest', rfl, hscripts, hrest'⟩ :=
      exists_scripts (fun s' => isScript_of_stepOn?) hsteps
    obtain ⟨hy, htrace, hnone⟩ := h.scripts hscripts
    rw [← List.singleton_append, replies_steps_append, replies_steps_append, hnone, List.nil_append,
      replies_steps_append] at hreplies
    rw [List.flatMap_cons, ← List.append_assoc] at hcalls
    have hn (i : Nat) (call : Call) (hi : s.calls[i]? = some call) :
        all[x.issued + i]? = some call := by
      rw [← hcalls, hx.issued, List.append_assoc, List.getElem?_append_right (Nat.le_add_right _ _),
        Nat.add_sub_cancel_left]
      exact getElem?_append_of_eq_some hi
    have hm (m : Move) (hmem : m ∈ x.actMoves s) : m.Numbered all :=
      hcalls ▸ ((hx.act s).2 m hmem).append _
    obtain ⟨hone, htrace', hlater⟩ := hy.step hfirst hall hn hm hreplies
    obtain ⟨hrun, htraces⟩ := ih hone (hx.step s) hcalls hrest hrest' hlater
    refine ⟨?_, ?_⟩
    · rw [run_append, run_append]
      exact hrun
    · have hlast : (x.run (s :: rest)).supervisor =
          (x.run [s]).supervisor.after ((x.run [s]).moves rest) := run_supervisor (x.run [s]) rest
      rw [← List.singleton_append, trace_moves_append x, trace_moves_append y, trace_moves_append,
        traceOn_append, traceOn_append, traceOn_append, htrace, List.nil_append]
      refine SameTrace.append (htrace'.mono ?_) htraces
      rw [List.singleton_append, hlast]
      exact Renumbered.mono (channels_after ..)

theorem flatMap_calls_stepsOn (x : Session Script) (c : Channel) (steps : List Step) :
    (x.stepsOn c steps).flatMap Step.calls = (steps.flatMap Step.calls).filter (·.stays c) := by
  induction steps generalizing x with
  | nil => rfl
  | cons s rest ih =>
    rw [stepsOn, List.flatMap_append, ih, List.flatMap_cons, List.filter_append]
    congr 1
    cases s with
    | call call => cases hc : call.stays c <;> simp [stepOn?, Step.calls, hc]
    | exit i collected =>
      simp only [stepOn?]
      split <;> rfl
    | batch calls => exact List.append_nil _
    | _ => rfl

theorem LeftOf.calls {steps steps' : List Step} (h : x.LeftOf c steps steps') :
    steps'.flatMap Step.calls = (steps.flatMap Step.calls).filter (·.stays c) := by
  have hscripts (steps : List Step) :
      (steps.filter fun s => !s.isScript).flatMap Step.calls = steps.flatMap Step.calls := by
    induction steps with
    | nil => rfl
    | cons s rest ih =>
      cases hs : s.isScript with
      | true => simp [hs, ih, Step.calls_of_isScript hs]
      | false => simp [hs, ih]
  rw [← flatMap_calls_stepsOn x, ← show _ = _ from h, hscripts]

theorem stepsOn_append (x : Session Script) (c : Channel) (steps later : List Step) :
    x.stepsOn c (steps ++ later) = x.stepsOn c steps ++ (x.run steps).stepsOn c later := by
  induction steps generalizing x with
  | nil => rfl
  | cons s rest ih =>
    rw [List.cons_append, stepsOn, stepsOn, ih, List.append_assoc]
    rfl

theorem LeftOf.exists_prefix {steps later steps' : List Step}
    (h : x.LeftOf c (steps ++ later) steps') :
    ∃ before rest, steps' = before ++ rest ∧ x.LeftOf c steps before := by
  obtain ⟨before, rest, rfl, hbefore, -⟩ :=
    List.filter_eq_append_iff.mp (h.trans (stepsOn_append x c steps later))
  exact ⟨before, rest, rfl, hbefore⟩

theorem mirrors_fresh (g : Settings) (c : Channel) (all : List Call) :
    Mirrors c all (fresh g) (fresh g) where
  supervisor :=
    { housed := fun _ _ he => by simp [fresh] at he
      shutDown := rfl
      alone := ⟨fun _ => .numbered, {}, fun _ _ hp => by simp [fresh] at hp, by cases c <;> rfl⟩ }
  line := rfl
  settled := settled_run g []

theorem trace_of_isLocal {g : Settings} {steps : List Step}
    (hl : ∀ call ∈ steps.flatMap Step.calls, call.isLocal = true) :
    (fresh g).trace steps = (fresh g).supervisor.trace ((fresh g).moves steps) :=
  (draining_and_trace_of_no_shutdown rfl fun _ hm => by
    cases hl .shutdown (List.mem_of_getElem? (calls_of_serve_shutdown hm))).2

theorem channel_of_launched {g : Settings} {steps : List Step} {r : LaunchRecord}
    (hl : ∀ call ∈ steps.flatMap Step.calls, call.isLocal = true ∧ call.stays c = true)
    (hr : .launched r ∈ (fresh g).supervisor.trace ((fresh g).moves steps)) : r.channel = c := by
  obtain ⟨earlier, m, later, hms, hm⟩ := Supervisor.mem_trace_iff.mp hr
  obtain ⟨n, d, s, rfl, -, hrecord⟩ := mem_move_launched hm
  have hmem : .serve n (.start d s) ∈ (fresh g).moves steps := by simp [hms]
  have hnumbered := (numbered_fresh g).moves steps _ hmem
  obtain ⟨d', hd, hc⟩ := rankOn_of_serve (c := c) hnumbered fun call h => (hl call h).1
  obtain ⟨call, hcall, -⟩ := hnumbered
  obtain rfl := Option.some.inj hd
  refine (congrArg LaunchRecord.channel hrecord).trans (hc.mp ?_)
  rw [rankOn_eq hcall, if_pos (hl call (List.mem_of_getElem? hcall)).2]
  rfl

/-- **Channels do not interfere.** Take a session of starts, stops and looks at single channels,
issued alone or in batches, with the registry held or not, and of processes that end. Leave out
of it each call on one channel and each end of a process there, and let the script say the same
to each launch on the other channel. Then the calls that are left are answered as they were. The
launcher is called for the channel as often, with the same arguments, and as things then stand
with the channel. Before and after each step, what is there is what the whole session has to do
with the channel: the entry, its status, and the processes of the channel with their tokens and
outcomes. Only that calls and processes are numbered without the others, and so are the pids
that the script does not give. -/
theorem channels_do_not_interfere (g : Settings) {c : Channel} {steps steps' : List Step}
    (hl : ∀ s ∈ steps, s.isLocal = true) (hsteps : (fresh g).LeftOf c steps steps')
    (hreplies : Agree ((fresh g).replies c steps) ((fresh g).replies c steps')) :
    let calls := steps.flatMap Step.calls
    let trace := (fresh g).trace steps
    let trace' := (fresh g).trace steps'
    steps'.flatMap Step.calls = calls.filter (·.stays c) ∧
    List.Forall₂ (fun p q => q.1 = p.1 ∧
        p.2.Same (((fresh g).run steps).supervisor.Renumbered c) q.2)
      ((trace.filterMap Happening.answer?).filterMap fun p => (rankOn c calls p.1).map (·, p.2))
      (trace'.filterMap Happening.answer?) ∧
    (trace'.filterMap Happening.launch?).map LaunchRecord.own =
      ((trace.filterMap Happening.launch?).filter fun r => r.channel = c).map LaunchRecord.own ∧
    ∀ before rest, steps = before ++ rest →
      (∃ before' rest', steps' = before' ++ rest' ∧ (fresh g).LeftOf c before before') ∧
      ∀ before' rest', steps' = before' ++ rest' → (fresh g).LeftOf c before before' →
        let k := ((fresh g).run before).supervisor
        let k' := ((fresh g).run before').supervisor
        ∃ pids, k.Named c pids ∧ k' = k.alone c pids k'.launcher ∧
          k'.registry.get c = k.entryOn c pids ∧
          (Answer.status (k.status? c)).Same (k.Renumbered c) (.status (k'.status? c)) ∧
          k'.processes = k.processesOn c pids := by
  intro calls trace trace'
  have hlocal {steps : List Step} (hl : ∀ s ∈ steps, s.isLocal = true) :
      ∀ call ∈ steps.flatMap Step.calls, call.isLocal = true := by
    intro call hcall
    obtain ⟨s, hs, hc⟩ := List.mem_flatMap.mp hcall
    have := hl s hs
    simp only [Step.isLocal, Bool.and_eq_true, List.all_eq_true] at this
    exact this.1 call hc
  have hcalls : steps'.flatMap Step.calls = calls.filter (·.stays c) := hsteps.calls
  have hleft : ∀ call ∈ steps'.flatMap Step.calls, call.isLocal = true ∧ call.stays c = true := by
    intro call hcall
    rw [hcalls] at hcall
    obtain ⟨hmem, hstays⟩ := List.mem_filter.mp hcall
    exact ⟨hlocal hl call hmem, hstays⟩
  obtain ⟨-, htraces⟩ := (mirrors_fresh g c calls).run (numbered_fresh g) rfl hl (hlocal hl) hsteps
    hreplies
  have hlocal' : ∀ call ∈ steps'.flatMap Step.calls, call.isLocal = true :=
    fun call hc => (hleft call hc).1
  rw [← trace_of_isLocal (hlocal hl), ← trace_of_isLocal hlocal'] at htraces
  refine ⟨hcalls, ?_, ?_, fun before rest hbefore => ⟨?_, fun before' rest' hbefore' hleft' => ?_⟩⟩
  · have hanswers := htraces.answers
    rw [answers_traceOn, answers_traceOn] at hanswers
    simpa using hanswers
  · have hlaunches := htraces.launches
    rw [launches_traceOn, launches_traceOn, List.filter_eq_self.mpr] at hlaunches
    · exact hlaunches
    · intro r hr
      obtain ⟨e, he, hlaunched⟩ := List.mem_filterMap.mp hr
      obtain rfl : e = .launched r := by
        cases e <;> simp_all [Happening.launch?]
      rw [trace_of_isLocal hlocal'] at he
      exact decide_eq_true (channel_of_launched hleft he)
  · subst hbefore
    exact hsteps.exists_prefix
  · subst hbefore hbefore'
    rw [replies_steps_append, replies_steps_append] at hreplies
    have hl' : ∀ s ∈ before, s.isLocal = true := fun s hs => hl s (List.mem_append_left _ hs)
    obtain ⟨hrun, -⟩ := (mirrors_fresh g c _).run (numbered_fresh g) rfl hl' (hlocal hl') hleft'
      hreplies.of_append
    obtain ⟨pids, l, hn, hk⟩ := hrun.supervisor.alone
    refine ⟨pids, hn, ?_, ?_, ?_, ?_⟩ <;> rw [hk]
    · rfl
    · exact alone_get ..
    · exact same_status hrun.supervisor.housed hn
    · rfl

/-- A launch that fails, a process that outlives its stream, and calls in line: without the calls
for sound, the first process for the pictures has another number and another pid, and the second
one its own. -/
theorem channels_do_not_interfere_held :
    let sound : StreamSpec := { source := "tone" }
    let pictures : StreamSpec := { source := "loop" }
    let anew : StreamSpec := { source := "clip", restart := true }
    let end0 : Collected := .status (.exited 0)
    let scripted : List ScriptedLaunch := [.fail { kind := .notFound },
      .succeed .numbered .untilTold, .succeed (.given (some 7)) .untilCancelled]
    let steps : List Step := [.script (.succeed .numbered .untilTold :: scripted),
      .call (.start "audio" sound), .hold,
      .batch [.start "video" pictures, .stop "audio", .start "video" pictures], .release,
      .exit 0 end0, .call (.start "video" anew), .exit 1 end0, .call (.status "video")]
    let steps' : List Step := [.hold, .batch [.start "video" pictures, .start "video" pictures],
      .script scripted, .release, .call (.start "video" anew), .exit 0 end0,
      .call (.status "video")]
    let k := ((fresh {}).run steps).supervisor
    let k' := ((fresh {}).run steps').supervisor
    (∀ s ∈ steps, s.isLocal = true) ∧ (fresh {}).LeftOf .video steps steps' ∧
    Agree ((fresh {}).replies .video steps) ((fresh {}).replies .video steps') ∧
    k.processes.map (·.pid) = [some 1000, some 1001, some 7] ∧
    k'.processes.map (·.pid) = [some 1000, some 7] ∧
    ∃ pids, k.Named .video pids ∧ k'.registry.get .video = k.entryOn .video pids ∧
      k'.processes = k.processesOn .video pids := by
  intro sound pictures anew end0 scripted steps steps' k k'
  have hl : ∀ s ∈ steps, s.isLocal = true := by decide
  have hsteps : (fresh {}).LeftOf .video steps steps' := by decide
  have hsaid : (fresh {}).replies .video steps = scripted := by decide
  have hsaid' : (fresh {}).replies .video steps' = scripted := by decide
  have hreplies : Agree ((fresh {}).replies .video steps) ((fresh {}).replies .video steps') := by
    rw [hsaid, hsaid']
    exact fun i a b ha hb => Option.some.inj (ha.symm.trans hb)
  obtain ⟨-, -, -, hstates⟩ := channels_do_not_interfere {} hl hsteps hreplies
  obtain ⟨pids, hnamed, -, hentry, -, hprocesses⟩ :=
    (hstates steps [] (List.append_nil _).symm).2 steps' [] (List.append_nil _).symm hsteps
  exact ⟨hl, hsteps, hreplies, by decide, by decide, pids, hnamed, hentry, hprocesses⟩

end Session
end StreamSupervisor
