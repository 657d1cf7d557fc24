import Mathlib.Data.List.Forall2
import StreamSupervisor.Fault

/-! # The keys of a channel

A channel's keys are its name between blank ends, with each letter small or capital. Nothing else
is read as a channel, and a key that is refused is handed back as it was given.
-/

namespace StreamSupervisor

section Trim

variable {s t u v : List Char}

theorem trimLeft_eq_iff :
    trimLeft s = t ↔ (∀ a ∈ t.head?, isBlankChar a = false) ∧
      ∃ u, s = u ++ t ∧ ∀ a ∈ u, isBlankChar a = true := by
  constructor
  · rintro rfl
    refine ⟨fun a ha => ?_, s.takeWhile isBlankChar, List.takeWhile_append_dropWhile.symm,
      List.all_eq_true.mp List.all_takeWhile⟩
    have hhead := List.head?_dropWhile_not isBlankChar s
    rw [Option.mem_def, trimLeft] at ha
    rwa [ha] at hhead
  · rintro ⟨hhead, u, rfl, hu⟩
    rw [trimLeft, List.dropWhile_append_of_pos hu]
    cases t with
    | nil => rfl
    | cons a t => rw [List.dropWhile_cons_of_neg (by simpa using hhead a rfl)]

theorem trim_eq_iff :
    trim s = t ↔
      ((∀ a ∈ t.head?, isBlankChar a = false) ∧ ∀ a ∈ t.getLast?, isBlankChar a = false) ∧
      ∃ u v, s = u ++ t ++ v ∧ (∀ a ∈ u, isBlankChar a = true) ∧
        ∀ a ∈ v, isBlankChar a = true := by
  rw [trim, List.reverse_eq_iff, trimLeft_eq_iff, List.head?_reverse]
  constructor
  · rintro ⟨hlast, v, hs, hv⟩
    rw [List.reverse_eq_iff, List.reverse_append, List.reverse_reverse, trimLeft_eq_iff] at hs
    obtain ⟨hhead, u, rfl, hu⟩ := hs
    refine ⟨⟨fun a ha => hhead a ?_, hlast⟩, u, v.reverse, (List.append_assoc ..).symm, hu,
      by simpa using hv⟩
    rw [List.head?_append, Option.mem_def.mp ha]
    rfl
  · rintro ⟨⟨hhead, hlast⟩, u, v, rfl, hu, hv⟩
    refine ⟨hlast, ?_⟩
    -- without anything in between, all that is blank comes off the left
    cases t with
    | nil =>
      refine ⟨[], ?_, by simp⟩
      rw [List.append_nil, List.reverse_nil, List.append_nil, List.reverse_eq_nil_iff,
        trimLeft_eq_nil_iff]
      simpa [or_imp, forall_and] using ⟨hu, hv⟩
    | cons a t =>
      refine ⟨v.reverse, ?_, by simpa using hv⟩
      rw [List.reverse_eq_iff, List.reverse_append, List.reverse_reverse, List.reverse_reverse,
        trimLeft_eq_iff]
      exact ⟨hhead, u, List.append_assoc .., hu⟩

theorem trim_append (hu : ∀ a ∈ u, isBlankChar a = true) (hv : ∀ a ∈ v, isBlankChar a = true) :
    trim (u ++ s ++ v) = trim s := by
  obtain ⟨hends, u', v', hs, hu', hv'⟩ := trim_eq_iff.mp (rfl : trim s = trim s)
  refine trim_eq_iff.mpr ⟨hends, u ++ u', v' ++ v, ?_, ?_, ?_⟩
  · conv_lhs => rw [hs]
    simp only [List.append_assoc]
  · simpa [or_imp, forall_and] using ⟨hu, hu'⟩
  · simpa [or_imp, forall_and] using ⟨hv', hv⟩

theorem trimLeft_append (h : ¬ ∀ a ∈ s, isBlankChar a = true) :
    trimLeft (s ++ t) = trimLeft s ++ t := by
  rw [trimLeft, List.dropWhile_append, if_neg]
  · rfl
  · rwa [List.isEmpty_iff, ← trimLeft, trimLeft_eq_nil_iff]

theorem trim_of_inner (hu : ¬ ∀ a ∈ u, isBlankChar a = true)
    (hv : ¬ ∀ a ∈ v, isBlankChar a = true) :
    trim (u ++ s ++ v) = trimLeft u ++ s ++ (trimLeft v.reverse).reverse := by
  rw [trim, List.append_assoc, trimLeft_append hu, ← List.append_assoc, List.reverse_append,
    trimLeft_append (by simpa using hv), List.reverse_append, List.reverse_reverse]

end Trim

section Letters

/-- The same character, or one ASCII letter small and capital. -/
def SameLetter (a b : Char) : Prop :=
  a = b ∨ a.isUpper = true ∧ b.toNat = a.toNat + 32 ∨ b.isUpper = true ∧ a.toNat = b.toNat + 32

def SameLetters (s t : String) : Prop := List.Forall₂ SameLetter s.toList t.toList

theorem isUpper_iff {a : Char} : a.isUpper = true ↔ 65 ≤ a.toNat ∧ a.toNat ≤ 90 := by
  change decide (a.val ≥ 'A'.val ∧ a.val ≤ 'Z'.val) = true ↔ _
  rw [decide_eq_true_iff]
  rfl

theorem isLower_iff {a : Char} : a.isLower = true ↔ 97 ≤ a.toNat ∧ a.toNat ≤ 122 := by
  change (decide (a.val ≥ 'a'.val) && decide (a.val ≤ 'z'.val)) = true ↔ _
  rw [Bool.and_eq_true, decide_eq_true_iff, decide_eq_true_iff]
  rfl

theorem isAlpha_iff {a : Char} : a.isAlpha = true ↔ a.isUpper = true ∨ a.isLower = true := by
  change (a.isUpper || a.isLower) = true ↔ _
  rw [Bool.or_eq_true]

theorem toNat_toLower (a : Char) :
    a.toLower.toNat = if a.isUpper = true then a.toNat + 32 else a.toNat := by
  unfold Char.toLower
  split
  · rename_i h
    rw [if_pos (isUpper_iff.mpr h)]
    have hle : a.toNat ≤ 90 := h.2
    change (a.val.toNat + 32) % 2 ^ 32 = a.toNat + 32
    exact Nat.mod_eq_of_lt (by change a.toNat + 32 < 2 ^ 32; omega)
  · rename_i h
    rw [if_neg (mt isUpper_iff.mp h)]

theorem isAlpha_of_isLower_toLower {a : Char} (h : a.toLower.isLower = true) :
    a.isAlpha = true := by
  rw [isLower_iff, toNat_toLower] at h
  rw [isAlpha_iff, isUpper_iff, isLower_iff]
  split at h
  · exact .inl (isUpper_iff.mp ‹_›)
  · exact .inr h

theorem sameLetter_iff {a b : Char} : SameLetter a b ↔ a.toLower = b.toLower := by
  rw [← Char.toNat_inj, toNat_toLower, toNat_toLower, SameLetter, ← Char.toNat_inj]
  simp only [isUpper_iff]
  split <;> split <;> omega

theorem sameLetters_iff {s t : String} :
    SameLetters s t ↔ s.toList.map Char.toLower = t.toList.map Char.toLower := by
  have hsame : SameLetter = fun a b => a.toLower = b.toLower :=
    funext₂ fun _ _ => propext sameLetter_iff
  rw [SameLetters, hsame, ← List.forall₂_eq_eq_eq, List.forall₂_map_left_iff,
    List.forall₂_map_right_iff]

theorem isBlankChar_iff {a : Char} :
    isBlankChar a = true ↔ 0x09 ≤ a.toNat ∧ a.toNat ≤ 0x0d ∨ a.toNat = 0x20 ∨ a.toNat = 0x85 ∨
      a.toNat = 0xa0 ∨ a.toNat = 0x1680 ∨ 0x2000 ≤ a.toNat ∧ a.toNat ≤ 0x200a ∨
      a.toNat = 0x2028 ∨ a.toNat = 0x2029 ∨ a.toNat = 0x202f ∨ a.toNat = 0x205f ∨
      a.toNat = 0x3000 := by
  simp only [isBlankChar, blankRanges, List.any_cons, List.any_nil, Bool.or_false, Bool.or_eq_true,
    decide_eq_true_iff]
  omega

theorem isBlankChar_of_isLower {a : Char} (h : a.isLower = true) : isBlankChar a = false := by
  rw [isLower_iff] at h
  rw [← Bool.not_eq_true, isBlankChar_iff]
  omega

@[simp] theorem isBlankChar_toLower (a : Char) : isBlankChar a.toLower = isBlankChar a := by
  rw [Bool.eq_iff_iff, isBlankChar_iff, isBlankChar_iff, toNat_toLower]
  simp only [isUpper_iff]
  split <;> omega

theorem map_toLower_trim (s : List Char) :
    (trim s).map Char.toLower = trim (s.map Char.toLower) := by
  have hleft (s : List Char) : (trimLeft s).map Char.toLower = trimLeft (s.map Char.toLower) := by
    have hblank : isBlankChar ∘ Char.toLower = isBlankChar := funext isBlankChar_toLower
    rw [trimLeft, trimLeft, List.dropWhile_map, hblank]
  rw [trim, trim, List.map_reverse, hleft, List.map_reverse, hleft]

end Letters

namespace Channel

variable {key : String} {c : Channel}

/-- The keys of a channel. -/
def HasKey (c : Channel) (key : String) : Prop :=
  ∃ before word after, key = before ++ word ++ after ∧
    Blank before ∧ SameLetters word c.name ∧ Blank after

@[simp] theorem map_toLower_name (c : Channel) :
    c.name.toList.map Char.toLower = c.name.toList := by
  cases c <;> decide

theorem isLower_of_mem_name {a : Char} (h : a ∈ c.name.toList) : a.isLower = true := by
  have hname : c.name.toList.all Char.isLower = true := by cases c <;> decide
  exact List.all_eq_true.mp hname a h

theorem isBlankChar_of_mem_name {a : Char} (h : a ∈ c.name.toList) : isBlankChar a = false :=
  isBlankChar_of_isLower (isLower_of_mem_name h)

theorem ofKey?_eq_some_iff_hasKey : ofKey? key = some c ↔ c.HasKey key := by
  rw [ofKey?_eq_some_iff, map_toLower_trim, trim_eq_iff]
  constructor
  · rintro ⟨-, u, v, hkey, hu, hv⟩
    obtain ⟨s, after, hs, hmap, rfl⟩ := List.map_eq_append_iff.mp hkey
    obtain ⟨before, word, rfl, rfl, hword⟩ := List.map_eq_append_iff.mp hmap
    refine ⟨.ofList before, .ofList word, .ofList after, ?_, ?_, ?_, ?_⟩
    · rw [← String.toList_inj]
      simp [hs]
    · simpa [Blank] using hu
    · rw [sameLetters_iff, map_toLower_name, String.toList_ofList, hword]
    · simpa [Blank] using hv
  · rintro ⟨before, word, after, rfl, hbefore, hword, hafter⟩
    refine ⟨⟨fun a ha => isBlankChar_of_mem_name (List.mem_of_mem_head? ha),
      fun a ha => isBlankChar_of_mem_name (List.mem_of_mem_getLast? ha)⟩,
      before.toList.map Char.toLower, after.toList.map Char.toLower, ?_, ?_, ?_⟩
    · rw [sameLetters_iff, map_toLower_name] at hword
      simp [hword]
    · simpa [Blank] using hbefore
    · simpa [Blank] using hafter

theorem ofKey?_append {before after : String} (hbefore : Blank before) (hafter : Blank after) :
    ofKey? (before ++ key ++ after) = ofKey? key := by
  simp only [ofKey?, String.toList_append, trim_append hbefore hafter]

theorem ofKey?_of_sameLetters {key' : String} (h : SameLetters key' key) :
    ofKey? key' = ofKey? key := by
  simp only [ofKey?, map_toLower_trim, sameLetters_iff.mp h]

theorem not_hasKey_of_inner {before inner after : String} (hbefore : ¬ Blank before)
    (hinner : ∃ a ∈ inner.toList, isBlankChar a = true) (hafter : ¬ Blank after) :
    ¬ c.HasKey (before ++ inner ++ after) := by
  rw [← ofKey?_eq_some_iff_hasKey, ofKey?_eq_some_iff, String.toList_append, String.toList_append,
    trim_of_inner hbefore hafter]
  intro h
  obtain ⟨a, ha, hblank⟩ := hinner
  have hmem : a.toLower ∈ c.name.toList := by
    rw [← h]
    exact List.mem_map_of_mem (by simp [ha])
  rw [← isBlankChar_toLower, isBlankChar_of_mem_name hmem] at hblank
  cases hblank

theorem isAlpha_of_hasKey (h : c.HasKey key) {a : Char} (ha : a ∈ key.toList)
    (hblank : isBlankChar a = false) : a.isAlpha = true := by
  obtain ⟨before, word, after, rfl, hbefore, hword, hafter⟩ := h
  have hmem : a ∈ word.toList := by
    simp only [String.toList_append, List.mem_append] at ha
    obtain (ha | ha) | ha := ha
    · rw [hbefore a ha] at hblank
      cases hblank
    · exact ha
    · rw [hafter a ha] at hblank
      cases hblank
  have hlower : a.toLower ∈ c.name.toList := by
    rw [← map_toLower_name, ← sameLetters_iff.mp hword]
    exact List.mem_map_of_mem hmem
  exact isAlpha_of_isLower_toLower (isLower_of_mem_name hlower)

theorem not_hasKey_of_blank (h : Blank key) : ¬ c.HasKey key := by
  rw [← ofKey?_eq_some_iff_hasKey, ofKey?_eq_some_iff, trim_eq_nil_iff.mpr h]
  cases c <;> decide

theorem ofKey_eq_error_iff_hasKey {e : StreamError} :
    ofKey key = .error e ↔ e = .invalidChannel key ∧ ∀ c : Channel, ¬ c.HasKey key := by
  simp only [ofKey_eq_error_iff, ← ofKey?_eq_some_iff_hasKey, Option.eq_none_iff_forall_ne_some,
    and_comm, ne_eq]

/-- **The keys of a channel.** A key is read as a channel just if it is the channel's name, each
letter small or capital, between blank ends; any other key is handed back unchanged. So a channel
is read from its own name, blank ends and the case of ASCII letters make no difference, and a key
is refused that is blank, that has something blank in the middle, or that has a character in it
which is neither blank nor an ASCII letter. -/
theorem keys_are_names_between_blanks (key : String) :
    (∀ c, ofKey key = .ok c ↔ c.HasKey key) ∧
    (∀ e, ofKey key = .error e ↔ e = .invalidChannel key ∧ ∀ c : Channel, ¬ c.HasKey key) ∧
    (∀ c, ofKey key = .ok c → ofKey c.name = ofKey key) ∧
    (∀ before after c, Blank before → Blank after →
      (ofKey (before ++ key ++ after) = .ok c ↔ ofKey key = .ok c)) ∧
    (∀ key' c, SameLetters key' key → (ofKey key' = .ok c ↔ ofKey key = .ok c)) ∧
    ((Blank key ∨
        (∃ before inner after, key = before ++ inner ++ after ∧ ¬ Blank before ∧
          (∃ a ∈ inner.toList, isBlankChar a = true) ∧ ¬ Blank after) ∨
        ∃ a ∈ key.toList, isBlankChar a = false ∧ a.isAlpha = false) →
      ofKey key = .error (.invalidChannel key)) := by
  refine ⟨fun c => ofKey_eq_ok_iff.trans ofKey?_eq_some_iff_hasKey,
    fun e => ofKey_eq_error_iff_hasKey, fun c hkey => ?_,
    fun before after c hbefore hafter => ?_, fun key' c hsame => ?_, fun hkey => ?_⟩
  · rw [hkey, ofKey_eq_ok_iff, ofKey?_name]
  · rw [ofKey_eq_ok_iff, ofKey_eq_ok_iff, ofKey?_append hbefore hafter]
  · rw [ofKey_eq_ok_iff, ofKey_eq_ok_iff, ofKey?_of_sameLetters hsame]
  · refine ofKey_eq_error_iff_hasKey.mpr ⟨rfl, fun c => ?_⟩
    obtain hblank | ⟨before, inner, after, rfl, hbefore, hinner, hafter⟩ |
      ⟨a, ha, hblank, halpha⟩ := hkey
    · exact not_hasKey_of_blank hblank
    · exact not_hasKey_of_inner hbefore hinner hafter
    · intro h
      rw [isAlpha_of_hasKey h ha hblank] at halpha
      cases halpha

/-- A key with wide blanks around it, one with a blank in the middle, and one that starts with an
invisible character which is not blank. -/
theorem keys_are_names_between_blanks_wide :
    let key := "\tViDeO\u3000"
    let split := " au\u2003dio"
    let hidden := "\u200bAudio "
    (ofKey ("\u00a0" ++ key ++ "\u2028") = .ok .video ↔ ofKey key = .ok .video) ∧
    ofKey key = .ok .video ∧ (ofKey "\tvIdEo\u3000" = .ok .video ↔ ofKey key = .ok .video) ∧
    ofKey Channel.video.name = ofKey key ∧
    ofKey split = .error (.invalidChannel split) ∧
    ofKey hidden = .error (.invalidChannel hidden) := by
  intro key split hidden
  obtain ⟨-, -, hname, hends, hcase, -⟩ := keys_are_names_between_blanks key
  obtain ⟨-, -, -, -, -, hsplit⟩ := keys_are_names_between_blanks split
  obtain ⟨-, -, -, -, -, hhidden⟩ := keys_are_names_between_blanks hidden
  have hkey : ofKey key = .ok .video := ofKey_eq_ok_iff.mpr (by decide)
  have hsame : SameLetters "\tvIdEo\u3000" key := sameLetters_iff.mpr (by decide)
  have hbefore : ¬ Blank " au" := mt (isBlank_iff _).mpr (by decide)
  have hafter : ¬ Blank "dio" := mt (isBlank_iff _).mpr (by decide)
  refine ⟨hends "\u00a0" "\u2028" _ ?_ ?_, hkey, hcase _ _ hsame, hname _ hkey, hsplit ?_,
    hhidden ?_⟩
  · exact (isBlank_iff _).mp (by decide)
  · exact (isBlank_iff _).mp (by decide)
  · exact .inr (.inl ⟨" au", "\u2003", "dio", by decide, hbefore, ⟨'\u2003', by decide, by decide⟩,
      hafter⟩)
  · exact .inr (.inr ⟨'\u200b', by decide, by decide, by decide⟩)

end Channel

end StreamSupervisor
