import LedgerMatch.Failure
import LedgerMatch.Proofs.Text.Digits

/-!
# Amounts are read back as written

The written form of an amount is plain: digits, with a point in front of as many of them as the
scale says. Reading takes one digit after the other, and none of the magnitudes on the way exceeds
the one that was written, so that nothing overflows and nothing is rounded. Only the sign of a zero
is lost.
-/

namespace LedgerMatch

-- Powers of whole numbers are the core ones, whatever else is imported.
attribute [local instance (2000)] instPowNat

namespace Magnitude

open Text

/-- A digit that leads no further than a magnitude that fits can be appended. -/
theorem push?_eq_some (point : Bool) {m n : Magnitude} {c : Char} {cs : List Char}
    (hmantissa : n.mantissa = (c :: cs).foldl pushDigit m.mantissa)
    (hscale : (if point then m.scale + 1 else m.scale) ≤ n.scale) :
    ∃ k : Magnitude, m.push? point (c.toNat - 48) = some k ∧
      k.mantissa = pushDigit m.mantissa c ∧ k.scale = if point then m.scale + 1 else m.scale := by
  have hlt : pushDigit m.mantissa c < mantissaLimit := by
    refine Nat.lt_of_le_of_lt ?_ n.mantissa_lt
    rw [hmantissa]
    exact le_foldl_pushDigit _ cs
  have hle := Nat.le_trans hscale n.scale_le
  exact ⟨⟨_, _, hlt, hle⟩, dif_pos ⟨hlt, hle⟩, rfl, rfl⟩

theorem eq_of_parts {m n : Magnitude} (hmantissa : m.mantissa = n.mantissa)
    (hscale : m.scale = n.scale) : m = n := by
  cases m
  cases n
  cases hmantissa
  cases hscale
  rfl

/-- Digits before the point are appended to the mantissa. -/
theorem scan_whole {m n : Magnitude} {ds rest : List Char} {seen : Bool}
    (hdigits : ∀ c ∈ ds, isDigit c = true) (hmantissa : n.mantissa = ds.foldl pushDigit m.mantissa)
    (hscale : n.scale = m.scale) (hseen : seen = true ∨ ds ≠ []) :
    m.scan false seen (ds ++ rest) = n.scan false true rest := by
  induction ds generalizing m seen with
  | nil =>
      rw [eq_of_parts hmantissa hscale]
      rcases hseen with rfl | hne
      · rfl
      · exact (hne rfl).elim
  | cons c cs ih =>
      have hvalue := digitValue?_of_isDigit (hdigits c List.mem_cons_self)
      obtain ⟨k, hpush, hk, hkscale⟩ := push?_eq_some false hmantissa (by simp [hscale])
      rw [List.cons_append, scan]
      simp only [hvalue, hpush, Bool.false_eq_true, false_and, if_false]
      refine ih (fun d hd => hdigits d (List.mem_cons_of_mem c hd)) ?_ ?_ (Or.inl rfl)
      · rw [hmantissa, hk, List.foldl_cons]
      · rw [hscale, hkscale]
        simp

/-- Digits behind the point are appended as decimals, up to the last one that fits. -/
theorem scan_decimals {m n : Magnitude} {ds : List Char} (hdigits : ∀ c ∈ ds, isDigit c = true)
    (hmantissa : n.mantissa = ds.foldl pushDigit m.mantissa)
    (hscale : n.scale = m.scale + ds.length) : m.scan true true ds = .ok n := by
  induction ds generalizing m with
  | nil =>
      rw [eq_of_parts hmantissa hscale]
      rfl
  | cons c cs ih =>
      have hvalue := digitValue?_of_isDigit (hdigits c List.mem_cons_self)
      rw [List.length_cons] at hscale
      obtain ⟨k, hpush, hk, hkscale⟩ :=
        push?_eq_some true hmantissa (by simp only [if_true]; omega)
      rw [if_pos rfl] at hkscale
      rw [scan]
      simp only [hvalue, hpush, true_and]
      split
      · next hlast =>
          -- there are no digits behind the last decimal
          have hnil : cs = [] := List.length_eq_zero_iff.1 (by have := n.scale_le; omega)
          subst hnil
          have hsame : k = n := eq_of_parts (by rw [hk, hmantissa]; rfl) (by simpa [hkscale] using hscale.symm)
          simp [roundAt, hsame]
      · refine ih (fun d hd => hdigits d (List.mem_cons_of_mem c hd)) ?_ ?_
        · rw [hmantissa, hk, List.foldl_cons]
        · omega

/-- The numeral of a magnitude is read as that magnitude. -/
theorem scan_pointedNumeral (m : Magnitude) :
    zero.scan false false (pointedNumeral m.scale m.mantissa) = .ok m := by
  rw [pointedNumeral]
  split
  · next hscale =>
      have hread := @scan_whole zero m _ [] false
        (fun c hc => isDigit_of_mem_numeral hc) (digitsValue_numeral m.mantissa).symm hscale
        (Or.inr (numeral_ne_nil _))
      rw [List.append_nil] at hread
      rw [hread]
      rfl
  · next hscale =>
      have hwholeLt : m.mantissa / 10 ^ m.scale < mantissaLimit :=
        Nat.lt_of_le_of_lt (Nat.div_le_self _ _) m.mantissa_lt
      have hrestLt : m.mantissa % 10 ^ m.scale < 10 ^ m.scale :=
        Nat.mod_lt _ (Nat.pow_pos (by decide))
      have hlength := length_paddedNumeral (Nat.pos_of_ne_zero hscale) hrestLt
      rw [scan_whole (m := zero) (n := ⟨m.mantissa / 10 ^ m.scale, 0, hwholeLt, Nat.zero_le _⟩)
        (fun c hc => isDigit_of_mem_numeral hc) (digitsValue_numeral _).symm rfl
        (Or.inr (numeral_ne_nil _)), scan]
      simp only [show digitValue? '.' = none by decide, Bool.false_eq_true, not_false_eq_true,
        and_self, if_true]
      refine scan_decimals (fun c hc => isDigit_of_mem_paddedNumeral hc) ?_ ?_
      · rw [foldl_pushDigit, hlength, digitsValue_paddedNumeral]
        exact (Nat.div_add_mod' _ _).symm
      · rw [hlength, Nat.zero_add]

end Magnitude

namespace Amount

/-- An amount that is not a zero with a sign. -/
def IsPlain (a : Amount) : Prop := a.negative = true → a.mantissa ≠ 0

/-- The amount that is read back in place of one that was written. -/
def plainForm (a : Amount) : Amount := a.toMagnitude.signed a.negative

theorem isPlain_plainForm (a : Amount) : a.plainForm.IsPlain := by
  intro h
  have hand : (a.negative && a.mantissa != 0) = true := h
  have hne := (Bool.and_eq_true_iff.1 hand).2
  exact bne_iff_ne.1 hne

theorem plainForm_of_isPlain {a : Amount} (h : a.IsPlain) : a.plainForm = a := by
  obtain ⟨m, negative⟩ := a
  cases negative with
  | false => rfl
  | true =>
      have hne : m.mantissa ≠ 0 := h rfl
      simp [plainForm, Magnitude.signed, hne]

theorem isNegative_plainForm (a : Amount) : a.plainForm.isNegative = a.isNegative := by
  simp [isNegative, plainForm, Magnitude.signed]

theorem plain_digit {cs : List Char} (hne : cs ≠ []) (hdigit : Text.isDigit (cs.head hne) = true) :
    plain cs = (Magnitude.zero.scan false false cs).map (·.signed false) := by
  cases cs with
  | nil => exact (hne rfl).elim
  | cons c rest =>
      unfold plain
      split
      · next h => cases h
      · next h =>
          cases h
          cases hdigit
      · next h =>
          cases h
          cases hdigit
      · rfl

theorem pointedNumeral_head (places n : Nat) :
    ∃ hne : Text.pointedNumeral places n ≠ [],
      Text.isDigit ((Text.pointedNumeral places n).head hne) = true := by
  have hhead (k : Nat) := List.head_mem (Text.numeral_ne_nil k)
  rw [Text.pointedNumeral]
  split
  · exact ⟨Text.numeral_ne_nil n, Text.isDigit_of_mem_numeral (hhead n)⟩
  · refine ⟨by simp, ?_⟩
    rw [List.head_append_left (Text.numeral_ne_nil _)]
    exact Text.isDigit_of_mem_numeral (hhead _)

/-- An amount is read back as it was written, but for the sign of a zero. -/
theorem ofChars_text (a : Amount) : ofChars a.text.toList = .ok a.plainForm := by
  have hread := Magnitude.scan_pointedNumeral a.toMagnitude
  have hplain : plain a.text.toList = .ok a.plainForm := by
    rw [text, String.toList_ofList, plainForm]
    cases hsign : a.negative with
    | true =>
        rw [if_pos rfl, plain, hread]
        rfl
    | false =>
        obtain ⟨hne, hdigit⟩ := pointedNumeral_head a.scale a.mantissa
        rw [if_neg (by simp), plain_digit hne hdigit, hread]
        rfl
  rw [ofChars, hplain]

theorem not_blank_of_mem_text {a : Amount} {c : Char} (h : c ∈ a.text.toList) :
    Text.isBlank c = false := by
  have hpointed : ∀ places n, c ∈ Text.pointedNumeral places n → Text.isBlank c = false := by
    intro places n hc
    rw [Text.pointedNumeral] at hc
    split at hc
    · exact Text.isBlank_of_isDigit (Text.isDigit_of_mem_numeral hc)
    · rcases List.mem_append.1 hc with hwhole | hrest
      · exact Text.isBlank_of_isDigit (Text.isDigit_of_mem_numeral hwhole)
      · rcases List.mem_cons.1 hrest with rfl | hdecimals
        · decide
        · exact Text.isBlank_of_isDigit (Text.isDigit_of_mem_paddedNumeral hdecimals)
  rw [text, String.toList_ofList] at h
  split at h
  · rcases List.mem_cons.1 h with rfl | hc
    · decide
    · exact hpointed _ _ hc
  · exact hpointed _ _ h

theorem trim_text (a : Amount) : Text.trim a.text = a.text :=
  Text.trim_of_not_blank fun _ hc => not_blank_of_mem_text hc

theorem ofText_text (a : Amount) : ofText a.text = .ok a.plainForm := by
  rw [ofText, trim_text, ofChars_text]

end Amount

end LedgerMatch
