import StreamSupervisor.Proofs.Ending.Reaping

/-! # What a status tells of a launch

The sink of a stream is found twice, once for the argument list and once for the entry, and
the entry keeps the spec. So for as long as an entry stands, its status says what is in the
argument list of its process, each thing in its place.
-/

namespace StreamSupervisor

/-- What a status says of a stream is what stands in an argument list, at fixed places. -/
structure StreamStatus.ReadOff (s : StreamStatus) (arguments : List String) : Prop where
  native : arguments[0]? = some "-re"
  loop : s.looped = true ↔ arguments[1]? = some "-stream_loop" ∧ arguments[2]? = some "-1"
  input : arguments[if s.looped then 3 else 1]? = some "-i"
  source : arguments[if s.looped then 4 else 2]? = some s.source
  sink : arguments.getLast? = some s.sink

def Entry.status (c : Channel) (e : Entry) (p : Process) : StreamStatus where
  channel := c
  pid := p.pid
  source := e.spec.source
  looped := e.spec.looped
  sink := e.sink
  exit := p.exit

theorem Entry.Describes.readOff {g : Settings} {c : Channel} {e : Entry} {p : Process}
    (h : e.Describes g c p) : (e.status c p).ReadOff p.arguments := by
  have hlooped : (e.status c p).looped = e.spec.looped := rfl
  have hsource : (e.status c p).source = e.spec.source := rfl
  rw [h.arguments]
  -- the options to loop stand before the input, so they move it two places on
  refine ⟨?_, ?_, ?_, ?_, (getLast?_arguments g c e.spec).trans (congrArg some h.sink.symm)⟩ <;>
    cases hl : e.spec.looped <;>
      simp [hlooped, hsource, hl, StreamSupervisor.arguments, loopOptions]

namespace Supervisor

variable {k : Supervisor Script} {m : Move} {ms : List Move} {c : Channel} {i : Nat} {e : Entry}

def Launches (k : Supervisor Script) (m : Move) (c : Channel) (s : StreamSpec) (i : Nat) : Prop :=
  ∃ n, m = .serve n (.start c s) ∧ k.launches (.start c s) = true ∧ k.processes.length = i

theorem launches_of_shows (he : (k.after ms).registry.get c = some e)
    (ho : e.owner = .process i) :
    k.registry.get c = some e ∨ k.Sometime ms fun k m => k.Launches m c e.spec i := by
  induction ms generalizing k with
  | nil => exact .inl he
  | cons m ms ih =>
    rw [sometime_cons_iff]
    rcases ih he with hm | hm
    · rcases entry_of_move hm with hk | ⟨s, sink, rfl, rfl⟩ | ⟨n, s, rfl, hl⟩
      · exact .inl hk
      · cases ho
      · obtain ⟨rfl, howner, -⟩ := entry_of_start hl hm
        exact .inr (.inl ⟨n, rfl, hl, Owner.process.inj (howner.symm.trans ho)⟩)
    · exact .inr (.inr hm)

theorem entry_of_shows_after (hi : i < k.processes.length)
    (he : (k.after ms).registry.get c = some e) (ho : e.owner = .process i) :
    k.registry.get c = some e := by
  rcases launches_of_shows he ho with hk | ⟨before, m, rest, rfl, n, -, -, hlen⟩
  · exact hk
  · have hle := length_processes_le_after k before
    omega

theorem status?_eq_of_shows (hk : k.Grounded) (h : k.Shows c i) :
    ∃ e p, k.registry.get c = some e ∧ e.owner = .process i ∧ k.processes[i]? = some p ∧
      e.Describes k.settings c p ∧ k.status? c = some (e.status c p) := by
  obtain ⟨e, he, ho⟩ := shows_iff.mp h
  cases hk c e he with
  | guest hg => cases hg.symm.trans ho
  | @process j p hj hp hd =>
    obtain rfl := Owner.process.inj (hj.symm.trans ho)
    refine ⟨e, p, he, ho, hp, hd, ?_⟩
    simp [status?, he, statusOf, exit?, ho, hp, Entry.status, hd.pid]

end Supervisor

namespace Session

open Supervisor

/-- **A status tells what was launched.** Whenever a channel shows the handle of a process, a
start has put it in, and that process was launched on this channel with the arguments of the
start's spec. The status shows the identifier of the process, the source and the loop of the
spec and its sink, and these stand in their places in the argument list. Nothing but a move
that clears the channel takes the entry away, and for as long as it is shown its status says the
same, but for the end of the process. So it is in the state that a session comes to, and in
each state on the way. -/
theorem status_tells_what_was_launched (g : Settings) (ms : List Move) :
    let k₀ := (fresh g).supervisor
    let k := k₀.after ms
    (∀ c i, k.Shows c i → ∃ e p,
      k.registry.get c = some e ∧ k.processes[i]? = some p ∧
      (k₀.Sometime ms fun k m => k.Launches m c e.spec i) ∧
      ((k₀.trace ms).filterMap Happening.success?)[i]? = some (c, arguments g c e.spec) ∧
      p.launch = (c, arguments g c e.spec) ∧
      k.status? c = some
        { channel := c, pid := p.pid, source := e.spec.source, looped := e.spec.looped,
          sink := outputSink g c e.spec, exit := p.exit } ∧
      (∀ s, k.status? c = some s → s.ReadOff p.arguments) ∧
      (∀ m, ¬ k.Clears m c → (k.move m).1.registry.get c = some e) ∧
      ∀ later, (k.after later).Shows c i → ∃ q : Process,
        (k.after later).processes[i]? = some q ∧ q.launch = p.launch ∧
        (k.after later).registry.get c = some e ∧
        ∀ s, k.status? c = some s → (k.after later).status? c = some { s with exit := q.exit }) ∧
    ∀ steps, (fresh g).moves steps = ms → ((fresh g).run steps).supervisor = k ∧
      ((fresh g).trace steps).filterMap Happening.success? =
        (k₀.trace ms).filterMap Happening.success? := by
  intro k₀ k
  refine ⟨fun c i hshows => ?_, ?_⟩
  · have hk : k.Grounded := (grounded_fresh g).after ms
    have hsettings : k.settings = g := k₀.settings_after ms
    obtain ⟨e, p, he, ho, hp, hd, hstatus⟩ := status?_eq_of_shows hk hshows
    rw [hsettings] at hd
    have hlaunch : p.launch = (c, arguments g c e.spec) := Prod.ext hd.channel hd.arguments
    refine ⟨e, p, he, hp, ?_, ?_, hlaunch, ?_, fun s hs => ?_, fun m hm => (get_move hm).trans he,
      fun later hlater => ?_⟩
    · exact (launches_of_shows he ho).resolve_left (by simp [k₀, fresh])
    · have hprocesses := map_launch_after k₀ ms
      rw [show k₀.processes = [] from rfl, List.map_nil, List.nil_append] at hprocesses
      rw [← hprocesses, List.getElem?_map, hp, Option.map_some, hlaunch]
    · rw [hstatus, Entry.status, hd.sink]
    · obtain rfl := Option.some.inj (hstatus.symm.trans hs)
      exact hd.readOff
    · obtain ⟨e', q, he', ho', hq, -, hstatus'⟩ := status?_eq_of_shows (hk.after later) hlater
      have hi : i < k.processes.length := (List.getElem?_eq_some_iff.mp hp).1
      obtain rfl : e = e' := Option.some.inj (he.symm.trans (entry_of_shows_after hi he' ho'))
      obtain ⟨q', hq', hpq⟩ := evolves_after later hp
      obtain rfl := Option.some.inj (hq'.symm.trans hq)
      refine ⟨q', hq, hpq.launch, he', fun s hs => ?_⟩
      obtain rfl := Option.some.inj (hstatus.symm.trans hs)
      rw [hstatus', Entry.status, Entry.status, hpq.pid]
  · rintro steps rfl
    exact ⟨run_supervisor _ _, filterMap_success?_trace _ _⟩

theorem status_tells_what_was_launched_options :
    let spec : StreamSpec := { source := "-stream_loop", looped := true, sink := some "-i" }
    let other : StreamSpec := { source := "-i" }
    let steps : List Step := [.call (.start "video" spec)]
    let k := ((fresh {}).run steps).supervisor
    let k' := k.after [.issue 1 (.start "video" other), .serve 1 (.start .video other), .settle,
      .tell 0 (.status (.exited 3)), .settle]
    k.Shows .video 0 ∧ k'.Shows .video 0 ∧
      (((fresh {}).trace steps).filterMap Happening.success?)[0]? =
        some (.video, arguments {} .video spec) ∧
      ∃ s o, k.status? .video = some s ∧ s.source = "-stream_loop" ∧ s.sink = "-i" ∧
        (∃ p : Process, k.processes[0]? = some p ∧ s.ReadOff p.arguments) ∧
        k'.status? .video = some { s with exit := some o } := by
  intro spec other steps k k'
  obtain ⟨hshown, hsession⟩ := status_tells_what_was_launched {} ((fresh {}).moves steps)
  obtain ⟨hk, htrace⟩ := hsession steps rfl
  rw [← hk] at hshown
  have hshows : k.Shows .video 0 := by decide
  have hlater : k'.Shows .video 0 := by decide
  obtain ⟨e, p, he, hp, -, hlaunched, -, -, hread, -, hstays⟩ := hshown .video 0 hshows
  obtain ⟨q, hq, -, -, hstatus⟩ := hstays _ hlater
  obtain ⟨s, hs⟩ : ∃ s, k.status? .video = some s := Option.isSome_iff_exists.mp (by decide)
  have htold : (k.status? .video).map (fun s => (s.source, s.sink)) =
      some ("-stream_loop", "-i") := by decide
  have hspec : (k.registry.get .video).map (·.spec) = some spec := by decide
  have hexit : (k'.processes[0]?.bind (·.exit)).isSome := by decide
  obtain ⟨o, ho⟩ := Option.isSome_iff_exists.mp hexit
  rw [show k'.processes[0]? = some q from hq, Option.bind_some] at ho
  rw [hs, Option.map_some, Option.some.injEq, Prod.mk.injEq] at htold
  rw [show k.registry.get .video = some e from he, Option.map_some, Option.some.injEq] at hspec
  refine ⟨hshows, hlater, ?_, s, o, hs, htold.1, htold.2, ⟨p, hp, hread s hs⟩, ho ▸ hstatus s hs⟩
  rw [htrace, hlaunched, hspec]

end Session
end StreamSupervisor
