import Mathlib
import StreamSupervisor.Proofs.Ending.Outcome

/-! # Outcomes and their texts

The first letters of an outcome's text tell which kind of outcome it is, and what follows tells
the code or what went wrong. So the text says all there is to say, and the event of a process that
ended as it should not is enough to know how it ended.
-/

namespace StreamSupervisor

section Words

theorem toInt_and_low (x : Int32) {k : Nat} (hk : k < 32) :
    (x &&& Int32.ofNat (2 ^ k - 1)).toInt = x.toInt % (2 ^ k : Nat) := by
  have hle : 2 ^ k ≤ 2 ^ 31 := Nat.pow_le_pow_right (by decide) (by omega)
  have hlt := Nat.mod_lt x.toBitVec.toNat (Nat.two_pow_pos k)
  have hdvd : ((2 ^ k : Nat) : Int) ∣ (2 ^ 32 : Nat) :=
    Int.natCast_dvd_natCast.mpr (Nat.pow_dvd_pow 2 (by omega))
  have hlow : (Int32.ofNat (2 ^ k - 1)).toBitVec.toNat = 2 ^ k - 1 := by
    rw [Int32.toBitVec_ofNat', BitVec.toNat_ofNat, Nat.mod_eq_of_lt (by omega)]
  calc (x &&& Int32.ofNat (2 ^ k - 1)).toInt
      = ((x.toBitVec.toNat % 2 ^ k : Nat) : Int).bmod (2 ^ 32) := by
        rw [Int32.toInt, Int32.toBitVec_and, BitVec.toInt_and, hlow, Nat.and_two_pow_sub_one_eq_mod]
    _ = (x.toBitVec.toNat % 2 ^ k : Nat) := Int.bmod_eq_of_le (by omega) (by omega)
    _ = x.toInt % (2 ^ k : Nat) := by
        rw [Int32.toInt, BitVec.toInt_eq_toNat_bmod, ← Int.emod_emod_of_dvd _ hdvd, Int.bmod_emod,
          Int.emod_emod_of_dvd _ hdvd, Int.natCast_emod]

theorem toInt_shiftRight_eight (x : Int32) : (x >>> 8).toInt = x.toInt / 256 := by
  have hshift : (Int32.toBitVec 8).smod 32 = 8#32 := by decide
  rw [Int32.toInt, Int32.toBitVec_shiftRight, hshift, BitVec.sshiftRight_eq',
    BitVec.toInt_sshiftRight, Int.shiftRight_eq_div_pow]
  rfl

theorem toInt_secondByte (x : Int32) : (x >>> 8 &&& 0xff).toInt = x.toInt / 256 % 256 := by
  rw [← toInt_shiftRight_eight]
  exact toInt_and_low (x >>> 8) (k := 8) (by decide)

end Words

namespace WaitStatus

variable {w : WaitStatus} {code : Int32}

theorem code?_eq_some_iff :
    w.code? = some code ↔ w.raw &&& 0x7f = 0 ∧ code = w.raw >>> 8 &&& 0xff := by
  have hsignal : w.raw &&& 0x7f = 0 ↔ w.raw.toInt % 128 = 0 := by
    rw [← Int32.toInt_inj]
    exact (toInt_and_low w.raw (k := 7) (by decide)).congr_left
  rw [code?, Option.ite_none_right_eq_some, hsignal, ← toInt_secondByte, Int32.ofInt_toInt,
    Option.some.injEq, eq_comm (a := code)]

theorem code?_le (h : w.code? = some code) : 0 ≤ code.toInt ∧ code.toInt ≤ 255 := by
  obtain ⟨-, rfl⟩ := code?_eq_some_iff.mp h
  rw [toInt_secondByte]
  omega

end WaitStatus

namespace ExitOutcome

variable {a b : ExitOutcome}

/-- The letters that the texts of one kind of outcome start with. -/
def initials : ExitOutcome → List Char
  | cancelled => ['c', 'a']
  | completed => ['c', 'o']
  | failed (some _) => ['e', 'x']
  | failed none => ['t', 'e']
  | waitFailed _ => ['w', 'a']

theorem text_failed_some (code : Int32) :
    (failed (some code)).text = "exited with status " ++ toString code.toInt := rfl

theorem text_waitFailed (s : String) : (waitFailed s).text = "wait failed: " ++ s := rfl

theorem take_text (o : ExitOutcome) : o.text.toList.take 2 = o.initials := by
  have happend (s t : String) (hs : 2 ≤ s.toList.length) :
      (s ++ t).toList.take 2 = s.toList.take 2 := by
    rw [String.toList_append, List.take_append_of_le_length hs]
  cases o with
  | cancelled => decide
  | completed => decide
  | failed code =>
    cases code with
    | none => decide
    | some code =>
      rw [text_failed_some, happend _ _ (by decide)]
      rfl
  | waitFailed s =>
    rw [text_waitFailed, happend _ _ (by decide)]
    rfl

theorem cases_of_initials (h : a.initials = b.initials) :
    a = b ∨ (∃ m n, a = failed (some m) ∧ b = failed (some n)) ∨
      ∃ s t, a = waitFailed s ∧ b = waitFailed t := by
  rcases a with _ | _ | (_ | m) | s <;> rcases b with _ | _ | (_ | n) | t <;>
    simp [initials] at h ⊢

theorem text_inj : a.text = b.text ↔ a = b := by
  refine ⟨fun h => ?_, fun h => h ▸ rfl⟩
  have hinitials : a.initials = b.initials := by rw [← take_text, ← take_text, h]
  obtain rfl | ⟨m, n, rfl, rfl⟩ | ⟨s, t, rfl, rfl⟩ := cases_of_initials hinitials
  · rfl
  · rw [text_failed_some, text_failed_some, String.append_right_inj, Int.toString_eq_repr,
      Int.toString_eq_repr, Int.repr_inj, Int32.toInt_inj] at h
    rw [h]
  · rw [text_waitFailed, text_waitFailed, String.append_right_inj] at h
    rw [h]

theorem classify_eq_failed_some_iff {collected : Collected} {fired : Bool} {code : Int32} :
    classify collected fired = failed (some code) ↔ fired = false ∧
      ∃ status, collected = .status status ∧ status.raw ≠ 0 ∧ status.raw &&& 0x7f = 0 ∧
        code = status.raw >>> 8 &&& 0xff := by
  simp only [(classify_tells collected fired).failed, WaitStatus.code?_eq_some_iff,
    ← Bool.not_eq_true, WaitStatus.success_iff, ne_eq]

theorem isExpected_classify_iff {collected : Collected} {fired : Bool} :
    (classify collected fired).isExpected = true ↔
      ∃ status, collected = .status status ∧ (fired = true ∨ status.raw = 0) := by
  simp only [isExpected_classify, WaitStatus.success_iff]

theorem text_ne_of_isExpected (ha : a.isExpected = true) (hb : b.isExpected = false) :
    a.text ≠ b.text := by
  intro h
  rw [text_inj.mp h, hb] at ha
  cases ha

end ExitOutcome

namespace Event

/-- What the fields of an event say of an outcome. -/
def outcome? (digits : Nat → String) (e : Event) : Option FieldValue :=
  (e.fields digits).lookup "outcome"

theorem outcome?_ended (digits : Nat → String) (c : Channel) (pid : Option Nat)
    (o : ExitOutcome) :
    (ended c pid o).outcome? digits = if o.isExpected then none else some (.text o.text) := by
  cases h : o.isExpected <;> simp [outcome?, fields, h, List.lookup]

theorem level_ended_eq_error_iff {c : Channel} {pid : Option Nat} {o : ExitOutcome} :
    (ended c pid o).level = .error ↔ o.isExpected = false := by
  cases h : o.isExpected <;> simp [level, h]

end Event

namespace Session

open ExitOutcome

theorem exit_of_reaped {g : Settings} {steps : List Step} {i : Nat} {e : Event}
    (h : .reaped i e ∈ (fresh g).trace steps) :
    ∃ p o, ((fresh g).run steps).supervisor.processes[i]? = some p ∧ p.exit = some o ∧
      e = .ended p.channel p.pid o := by
  have hmem : e ∈ ((fresh g).trace steps).filterMap (Happening.reapedOf? i) :=
    List.mem_filterMap.mpr ⟨_, h, Happening.reapedOf?_eq_some_iff.mpr rfl⟩
  rw [ended?_run, Option.mem_toList, Supervisor.ended?] at hmem
  obtain ⟨p, hp, hpe⟩ := Option.bind_eq_some_iff.mp hmem
  obtain ⟨o, ho, rfl⟩ := Option.map_eq_some_iff.mp hpe
  exact ⟨p, o, hp, ho, rfl⟩

/-- **Texts identify outcomes.** Two outcomes with one text are the same, whatever the code and
whatever went wrong in waiting, so nothing unexpected reads like something expected. An outcome has
a code just if the token had not fired, the status is not zero and its low seven bits are, and the
code is the status's second byte. An outcome is expected just if a status was collected, and the
token had fired or the status is zero. The event of a process that ended in a session is an error
just if the outcome on record is not expected, and then its text is that of this outcome only. -/
theorem outcome_texts_identify_outcomes (g : Settings) (steps : List Step) :
    (∀ a b : ExitOutcome, a.text = b.text ↔ a = b) ∧
    (∀ a b : ExitOutcome, a.isExpected = true → b.isExpected = false → a.text ≠ b.text) ∧
    (∀ collected fired code, classify collected fired = .failed (some code) ↔
      fired = false ∧ ∃ status, collected = .status status ∧ status.raw ≠ 0 ∧
        status.raw &&& 0x7f = 0 ∧ code = status.raw >>> 8 &&& 0xff) ∧
    (∀ collected fired code, classify collected fired = .failed (some code) →
      0 ≤ code.toInt ∧ code.toInt ≤ 255) ∧
    (∀ collected fired, (classify collected fired).isExpected = true ↔
      ∃ status, collected = .status status ∧ (fired = true ∨ status.raw = 0)) ∧
    ∀ i e, .reaped i e ∈ (fresh g).trace steps →
      ∃ p o, ((fresh g).run steps).supervisor.processes[i]? = some p ∧ p.exit = some o ∧
        (e.level = .error ↔ o.isExpected = false) ∧
        (e.level = .error → ∀ digits o', e.outcome? digits = some (.text o'.text) ↔ o' = o) := by
  refine ⟨fun a b => text_inj, fun a b => text_ne_of_isExpected,
    fun collected fired code => classify_eq_failed_some_iff, fun collected fired code h => ?_,
    fun collected fired => isExpected_classify_iff, fun i e he => ?_⟩
  · obtain ⟨-, status, -, -, hcode⟩ := ((classify_tells collected fired).failed _).mp h
    exact WaitStatus.code?_le hcode
  · obtain ⟨p, o, hp, ho, rfl⟩ := exit_of_reaped he
    refine ⟨p, o, hp, ho, Event.level_ended_eq_error_iff, fun hlevel digits o' => ?_⟩
    rw [Event.outcome?_ended, Event.level_ended_eq_error_iff.mp hlevel, if_neg Bool.false_ne_true,
      Option.some.injEq, FieldValue.text.injEq, text_inj, eq_comm]

/-- One process has a status below zero, and what went wrong in waiting for the other reads like
the outcome of the first. -/
theorem outcome_texts_identify_outcomes_alike :
    let status : WaitStatus := ⟨-256⟩
    let fault : Fault := { kind := .other, text := "exited with status 255" }
    let steps : List Step := [
      .script [.succeed .numbered (.after 0 (.status status)),
        .succeed .numbered (.after 0 (.fault fault))],
      .call (.start "audio" { source := "tone" }), .call (.start "video" { source := "clip" })]
    let k := ((fresh {}).run steps).supervisor
    let e : Event := .ended .audio (some 1000) (.failed (some 255))
    let f : Event := .ended .video (some 1001) (.waitFailed "exited with status 255")
    (classify (.status status) false = .failed (some 255) ∧
      0 ≤ (255 : Int32).toInt ∧ (255 : Int32).toInt ≤ 255) ∧
    ExitOutcome.cancelled.text ≠ (ExitOutcome.waitFailed "cancelled").text ∧
    (∃ p o, k.processes[0]? = some p ∧ p.exit = some o ∧
      ∀ digits o', e.outcome? digits = some (.text o'.text) ↔ o' = o) ∧
    ∃ p o, k.processes[1]? = some p ∧ p.exit = some o ∧
      ∀ digits o', f.outcome? digits = some (.text o'.text) ↔ o' = o := by
  intro status fault steps k e f
  obtain ⟨-, htexts, -, hcode, -, hreaped⟩ := outcome_texts_identify_outcomes {} steps
  have hstatus : classify (.status status) false = .failed (some 255) := by decide
  obtain ⟨p, o, hp, ho, -, he⟩ := hreaped 0 e (by decide)
  obtain ⟨q, o', hq, ho', -, hf⟩ := hreaped 1 f (by decide)
  exact ⟨⟨hstatus, hcode _ _ _ hstatus⟩, htexts _ _ rfl rfl, ⟨p, o, hp, ho, he rfl⟩,
    q, o', hq, ho', hf rfl⟩

end Session

end StreamSupervisor
