import Mathlib
import StreamSupervisor.Program.Session
import StreamSupervisor.Proofs.Program.Laws

/-! # Hosts keep the laws

On a host, no program is executed with a zero character in its path or its arguments, and the host
has no other ground for that fault. A program that is there and may be executed is launched.
-/

namespace StreamSupervisor

theorem contains_zero_iff (s : String) : s.contains '\x00' = true ↔ ¬ ZeroFree s := by
  simp [ZeroFree, String.contains_char_eq]

namespace Machine

/-! ### Bytes -/

theorem toList_loop (bs : ByteArray) (i : Nat) (taken : List UInt8) :
    ByteArray.toList.loop bs i taken = taken.reverse ++ bs.data.toList.drop i := by
  fun_induction ByteArray.toList.loop bs i taken with
  | case1 i taken hi ih =>
    have hlt : i < bs.data.toList.length := hi
    have hget : bs.get! i = bs.data.toList[i] := by
      simp [ByteArray.get!, getElem!_pos bs.data i hi]
    rw [ih, hget, List.reverse_cons, List.append_assoc, List.singleton_append,
      List.getElem_cons_drop]
  | case2 i taken hi =>
    have hle : bs.data.toList.length ≤ i := Nat.le_of_not_lt hi
    rw [List.drop_eq_nil_of_le hle, List.append_nil]

theorem toList_toUTF8 (s : String) : s.toUTF8.toList = s.toList.flatMap String.utf8EncodeChar := by
  rw [ByteArray.toList, toList_loop, String.toUTF8_eq_toByteArray]
  conv => lhs; rw [← String.ofList_toList (s := s), String.toByteArray_ofList]
  exact List.toList_data_toByteArray

theorem zero_eq_ofNat_iff (n : Nat) : 0 = UInt8.ofNat n ↔ n % 256 = 0 := by
  rw [← UInt8.toNat_inj, UInt8.toNat_ofNat', UInt8.toNat_zero, eq_comm]

theorem zero_mem_utf8EncodeChar (c : Char) : 0 ∈ String.utf8EncodeChar c ↔ c = '\x00' := by
  have hc : c = '\x00' ↔ c.val.toNat = 0 := by
    rw [← Char.toNat_inj]
    rfl
  rw [hc]
  simp only [String.utf8EncodeChar]
  -- each byte of a longer encoding carries a mark in its high bits
  split_ifs <;> simp only [List.mem_cons, List.not_mem_nil, or_false, zero_eq_ofNat_iff] <;> omega

theorem ofNat_eq_zero_iff (b : UInt8) : Char.ofNat b.toNat = '\x00' ↔ b = 0 := by
  have hvalid : b.toNat.isValidChar := .inl (Nat.lt_trans b.toNat_lt (by decide))
  rw [← Char.toNat_inj, Char.ofNat, dif_pos hvalid, ← UInt8.toNat_inj]
  rfl

theorem zeroFree_bytes_iff (s : String) : ZeroFree (bytes s) ↔ ZeroFree s := by
  unfold bytes
  split
  · rfl
  · simp only [ZeroFree, String.toList_ofList, List.mem_map, ofNat_eq_zero_iff, exists_eq_right,
      toList_toUTF8, List.mem_flatMap, zero_mem_utf8EncodeChar]

end Machine

/-- The texts that name a program. -/
def Program.texts : Program → List String
  | .named name => [name]
  | .script .. => []

theorem Program.zeroFree_path_iff (p : Program) :
    ZeroFree p.path ↔ ∀ t ∈ p.texts, ZeroFree t := by
  cases p with
  | named name => simp [path, texts, Machine.zeroFree_bytes_iff]
  | script text mode =>
    have hpath : ZeroFree scriptPath := by decide
    simp [path, texts, hpath]

/-- The system has no refusal of its own for zero characters. -/
theorem Fault.ofRefusal_ne_nulByte (r : Machine.Refusal) : ofRefusal r ≠ nulByte := by
  cases r <;> decide

namespace Machine.Files

variable {f : Files} {path name : String} {arguments environment : List String} {i : Nat}

theorem find_of_absolute (hpath : path.startsWith "/" = true) (directory : Nat) (follow : Bool) :
    f.find directory follow path = f.find 0 follow path := by
  simp only [find, place, hpath, if_true]

theorem program_of_find (hpath : path.startsWith "/" = true) (hfind : f.find 0 true path = .ok i)
    (hprogram : (f.node i).content = .program name) (hmode : (f.node i).allows 1 = true)
    (hshort : isTooLong (path :: arguments ++ environment) = false) (directory : Nat) :
    f.program directory path arguments environment = .ok (name, arguments) := by
  have hexecutable : f.executable directory path = .ok (f.node i) := by
    simp [executable, find_of_absolute hpath, hfind, hprogram, hmode, bind, Except.bind]
  simp only [program, resolve, interpreterDepth, hexecutable, hshort, hprogram, bind, Except.bind,
    Bool.false_eq_true, if_false]

end Machine.Files

namespace Host

variable {h h' : Host} {r : LaunchRequest} {args words : List String} {name : String} {pid : Nat}

theorem any_contains_zero_iff (texts : List String) :
    (texts.any fun a => a.contains '\x00') = true ↔ ∃ a ∈ texts, ¬ ZeroFree a := by
  simp only [List.any_eq_true, contains_zero_iff]

theorem spawn_eq_nulByte_iff (h : Host) (args : List String) :
    h.spawn args = .error .nulByte ↔ ∃ a ∈ h.program.path :: args, ¬ ZeroFree a := by
  simp only [spawn, any_contains_zero_iff]
  split
  · exact iff_of_true rfl ‹_›
  · refine iff_of_false ?_ ‹_›
    split
    · exact fun he => Fault.ofRefusal_ne_nulByte _ (Except.error.inj he)
    · nofun

theorem program_of_spawn (hs : h.spawn args = .ok (pid, h')) : h'.program = h.program := by
  simp only [spawn] at hs
  split at hs
  · cases hs
  · split at hs <;> cases hs
    rfl

theorem launch_eq_error_iff {fault : Fault} :
    (Launcher.launch h r).child = .error fault ↔ h.spawn r.arguments = .error fault := by
  simp only [Launcher.launch]
  cases h.spawn r.arguments <;> simp

theorem launch_program (h : Host) (r : LaunchRequest) :
    (Launcher.launch h r).launcher.program = h.program := by
  simp only [Launcher.launch]
  cases hs : h.spawn r.arguments with
  | error fault => rfl
  | ok spawned => exact program_of_spawn hs

instance : LawfulRunner Host where
  path h := h.program.path
  path_launch h r := by rw [launch_program]
  nulByte_iff h r := by rw [launch_eq_error_iff, spawn_eq_nulByte_iff]
  launcher_of_error {h r fault} hc := by
    simp only [Launcher.launch, launch_eq_error_iff.mp hc]
  course_of_ok {h r child} hc := by
    simp only [Launcher.launch] at hc
    cases hs : h.spawn r.arguments <;> rw [hs] at hc <;> cases hc
    rfl
  path_kill _ _ := rfl
  path_run _ _ := rfl

theorem launch_of_resolve
    (hr : resolve h.world.files h.program.path (h.program.path :: r.arguments.map Machine.bytes) =
      .ok (name, words)) (hz : ∀ a ∈ h.program.path :: r.arguments, ZeroFree a) :
    (Launcher.launch h r).child = .ok ⟨some r.index, .untilCancelled⟩ := by
  have hany : ¬ ((h.program.path :: r.arguments).any fun a => a.contains '\x00') = true := by
    rw [any_contains_zero_iff]
    rintro ⟨a, ha, hn⟩
    exact hn (hz a ha)
  simp only [Launcher.launch, spawn, if_neg hany, hr]

/-- A host on which there is one program and nothing else. -/
def bare : Host where
  program := .named "/p"
  world := { files := Machine.Files.empty.install "/p" { content := .program "p", mode := 493 } }

theorem path_bare : bare.program.path = "/p" := by cbv

theorem resolve_bare (hshort : Machine.isTooLong ("/p" :: words ++ environment) = false) :
    resolve bare.world.files "/p" words = .ok ("p", words) := by
  have hslash : "/p".contains '/' = true := by cbv
  have hfind : bare.world.files.find 0 true "/p" = .ok 1 := by cbv
  have hprogram : (bare.world.files.node 1).content = .program "p" := by cbv
  rw [resolve, if_pos hslash]
  exact Machine.Files.program_of_find (by cbv) hfind hprogram (by cbv) hshort _

end Host

end StreamSupervisor
