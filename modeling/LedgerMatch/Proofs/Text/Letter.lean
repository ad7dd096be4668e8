import LedgerMatch.Layout.Statement

/-!
# Letter case, blanks and slashes

Letters written large can be told from each other after they are written small. No letter is blank
in either case, so that a text can be trimmed before or after its letters are written large.
Changing the case of letters and trimming blanks make no slash.
-/

namespace LedgerMatch.Text

/-! ### Characters -/

theorem toNat_toUpper (c : Char) :
    c.toUpper.toNat = if 97 ≤ c.toNat ∧ c.toNat ≤ 122 then c.toNat - 32 else c.toNat := by
  unfold Char.toUpper
  simp only [UInt32.le_iff_toNat_le]
  split
  · next h =>
      have hrange : 97 ≤ c.toNat ∧ c.toNat ≤ 122 := h
      have hshift : ('A'.val - 'a'.val).toNat = 4294967264 := by decide
      rw [if_pos hrange]
      show (c.val + ('A'.val - 'a'.val)).toNat = c.toNat - 32
      rw [UInt32.toNat_add, hshift]
      show (c.toNat + 4294967264) % 2 ^ 32 = c.toNat - 32
      omega
  · next h =>
      have hrange : ¬ (97 ≤ c.toNat ∧ c.toNat ≤ 122) := h
      rw [if_neg hrange]

theorem toNat_toLower (c : Char) :
    c.toLower.toNat = if 65 ≤ c.toNat ∧ c.toNat ≤ 90 then c.toNat + 32 else c.toNat := by
  unfold Char.toLower
  simp only [ge_iff_le, UInt32.le_iff_toNat_le]
  split
  · next h =>
      have hrange : 65 ≤ c.toNat ∧ c.toNat ≤ 90 := h
      have hshift : ('a'.val - 'A'.val).toNat = 32 := by decide
      rw [if_pos hrange]
      show (c.val + ('a'.val - 'A'.val)).toNat = c.toNat + 32
      rw [UInt32.toNat_add, hshift]
      show (c.toNat + 32) % 2 ^ 32 = c.toNat + 32
      omega
  · next h =>
      have hrange : ¬ (65 ≤ c.toNat ∧ c.toNat ≤ 90) := h
      rw [if_neg hrange]

theorem toUpper_toLower (c : Char) : c.toLower.toUpper = c.toUpper := by
  have hlower := toNat_toLower c
  have hupper := toNat_toUpper c
  have hboth := toNat_toUpper c.toLower
  apply Char.toNat_inj.1
  split at hlower <;> split at hupper <;> split at hboth <;> omega

theorem toLower_toUpper (c : Char) : c.toUpper.toLower = c.toLower := by
  have hlower := toNat_toLower c
  have hupper := toNat_toUpper c
  have hboth := toNat_toLower c.toUpper
  apply Char.toNat_inj.1
  split at hlower <;> split at hupper <;> split at hboth <;> omega

theorem toUpper_toUpper (c : Char) : c.toUpper.toUpper = c.toUpper := by
  have hc := toNat_toUpper c
  have hupper := toNat_toUpper c.toUpper
  apply Char.toNat_inj.1
  split at hc <;> split at hupper <;> omega

/-- The letters that are written small alike are a small letter and the large one of it. -/
theorem toLower_eq_iff {c l : Char} (hl : 97 ≤ l.toNat ∧ l.toNat ≤ 122) :
    c.toLower = l ↔ c = l ∨ c = l.toUpper := by
  have hlower := toNat_toLower c
  have hupper := toNat_toUpper l
  rw [← Char.toNat_inj, ← Char.toNat_inj, ← Char.toNat_inj]
  split at hlower <;> split at hupper <;> omega

/-- No letter is blank, in either case. -/
theorem isBlank_toUpper (c : Char) : isBlank c.toUpper = isBlank c := by
  have hupper := toNat_toUpper c
  rw [Bool.eq_iff_iff]
  simp only [isBlank, blankRanges, List.any_cons, List.any_nil, Bool.or_eq_true, Bool.and_eq_true,
    decide_eq_true_eq, Bool.false_eq_true, or_false]
  split at hupper <;> omega

theorem eq_slash_of_toUpper {c : Char} (h : c.toUpper = '/') : c = '/' := by
  have hnat := congrArg Char.toNat h
  rw [toNat_toUpper] at hnat
  apply Char.toNat_inj.1
  have hslash : ('/' : Char).toNat = 47 := rfl
  rw [hslash] at hnat ⊢
  split at hnat <;> omega

theorem eq_slash_of_toLower {c : Char} (h : c.toLower = '/') : c = '/' := by
  have hnat := congrArg Char.toNat h
  rw [toNat_toLower] at hnat
  apply Char.toNat_inj.1
  have hslash : ('/' : Char).toNat = 47 := rfl
  rw [hslash] at hnat ⊢
  split at hnat <;> omega

/-! ### Texts -/

theorem toList_upper (s : String) : (upper s).toList = s.toList.map Char.toUpper :=
  String.toList_ofList

theorem toList_lower (s : String) : (lower s).toList = s.toList.map Char.toLower :=
  String.toList_ofList

theorem upper_upper (s : String) : upper (upper s) = upper s := by
  apply String.toList_inj.1
  rw [toList_upper, toList_upper, List.map_map]
  exact List.map_congr_left fun c _ => toUpper_toUpper c

theorem upper_lower (s : String) : upper (lower s) = upper s := by
  apply String.toList_inj.1
  rw [toList_upper, toList_upper, toList_lower, List.map_map]
  exact List.map_congr_left fun c _ => toUpper_toLower c

theorem lower_upper (s : String) : lower (upper s) = lower s := by
  apply String.toList_inj.1
  rw [toList_lower, toList_lower, toList_upper, List.map_map]
  exact List.map_congr_left fun c _ => toLower_toUpper c

/-- Texts are the same when written small if and only if they are when written large. -/
theorem upper_eq_iff {s t : String} : upper s = upper t ↔ lower s = lower t := by
  constructor
  · intro h
    rw [← lower_upper s, h, lower_upper]
  · intro h
    rw [← upper_lower s, h, upper_lower]

theorem sameLetters_eq (s t : String) : sameLetters s t = (upper s == upper t) := by
  rw [Bool.eq_iff_iff, sameLetters, beq_iff_eq, beq_iff_eq, upper_eq_iff]

/-- Texts written large are the same if they are when written small. -/
theorem upper_eq_of_lower_eq {s t : String} (h : lower (upper s) = lower (upper t)) :
    upper s = upper t := by
  rwa [lower_upper, lower_upper, ← upper_eq_iff] at h

/-! ### Blanks -/

/-- What a text without leading blanks begins with has no leading blanks either. -/
theorem skipBlanks_front {front cs : List Char} (h : front <+: skipBlanks cs) :
    skipBlanks front = front := by
  cases front with
  | nil => rfl
  | cons c rest =>
      obtain ⟨behind, hcs⟩ := h
      have hblank : ¬ isBlank c = true := by
        have hnot := List.head?_dropWhile_not isBlank cs
        rw [show cs.dropWhile isBlank = (c :: rest) ++ behind from hcs.symm] at hnot
        simpa using hnot
      exact List.dropWhile_cons_of_neg hblank

theorem trimChars_trimChars (cs : List Char) : trimChars (trimChars cs) = trimChars cs := by
  have hbegins : trimChars cs <+: skipBlanks cs := by
    rw [trimChars, ← List.reverse_suffix, List.reverse_reverse]
    exact List.dropWhile_suffix isBlank
  have hfront : skipBlanks (trimChars cs) = trimChars cs := skipBlanks_front hbegins
  rw [trimChars, hfront, trimChars, List.reverse_reverse, skipBlanks_skipBlanks]

theorem trim_trim (s : String) : trim (trim s) = trim s := by
  simp only [trim, String.toList_ofList, trimChars_trimChars]

theorem skipBlanks_map_toUpper (cs : List Char) :
    skipBlanks (cs.map Char.toUpper) = (skipBlanks cs).map Char.toUpper := by
  simp only [skipBlanks, List.dropWhile_map]
  rw [show isBlank ∘ Char.toUpper = isBlank from funext isBlank_toUpper]

theorem trim_upper (s : String) : trim (upper s) = upper (trim s) := by
  simp only [trim, upper, trimChars, String.toList_ofList, skipBlanks_map_toUpper,
    ← List.map_reverse]

/-! ### Banks -/

theorem canonicalBank_upper (code : String) : canonicalBank (upper code) = canonicalBank code := by
  rw [canonicalBank, trim_upper, upper_upper, canonicalBank]

theorem canonicalBank_canonicalBank (code : String) :
    canonicalBank (canonicalBank code) = canonicalBank code := by
  rw [canonicalBank, canonicalBank, trim_upper, trim_trim, upper_upper]

/-! ### Slashes -/

/-- A text without a slash. -/
def IsPlain (s : String) : Prop := '/' ∉ s.toList

theorem isPlain_upper {s : String} (h : IsPlain s) : IsPlain (upper s) := by
  intro hmem
  rw [toList_upper, List.mem_map] at hmem
  obtain ⟨c, hc, hslash⟩ := hmem
  exact h (eq_slash_of_toUpper hslash ▸ hc)

theorem isPlain_lower {s : String} (h : IsPlain s) : IsPlain (lower s) := by
  intro hmem
  rw [toList_lower, List.mem_map] at hmem
  obtain ⟨c, hc, hslash⟩ := hmem
  exact h (eq_slash_of_toLower hslash ▸ hc)

theorem isPlain_trim {s : String} (h : IsPlain s) : IsPlain (trim s) := by
  intro hmem
  rw [trim, String.toList_ofList, trimChars, List.mem_reverse] at hmem
  have hmem' := List.mem_reverse.1 ((List.dropWhile_suffix _).subset hmem)
  exact h ((List.dropWhile_suffix _).subset hmem')

theorem isPlain_canonicalBank {s : String} (h : IsPlain s) : IsPlain (canonicalBank s) :=
  isPlain_upper (isPlain_trim h)

end LedgerMatch.Text
