import LedgerMatch.Proofs.Amount.Rounding
import LedgerMatch.Proofs.Common
import Mathlib.Data.List.TakeWhile

/-!
# Amounts read from plain numerals

What is read without a power of ten is a numeral: a sign, digits, underscores and at most one point.
The amount has the sign of the numeral unless it is zero, and its magnitude is what the digits are
rounded to.
-/

namespace LedgerMatch

-- Powers of whole numbers are the core ones, whatever else is imported.
attribute [local instance (2000)] instPowNat

open Text Numeral

/-! ### What is read is a numeral -/

namespace Magnitude

theorem row_of_roundAt {m n : Magnitude} {cs : List Char} (h : m.roundAt cs = .ok n) :
    ∀ c ∈ cs, isDigit c = true ∨ c = '_' := by
  cases cs with
  | nil => simp
  | cons c rest =>
      obtain ⟨digit, hdigit, -, hstray⟩ := roundAt_cons h
      intro d hd
      rcases List.mem_cons.1 hd with rfl | hrest
      · split at hdigit
        · next hmark => exact Or.inr hmark
        · exact Or.inl (eq_of_digitValue? hdigit).1
      · have hnone := List.find?_eq_none.1 hstray d hrest
        simp only [Bool.and_eq_true, Bool.not_eq_true', bne_iff_ne, ne_eq, not_and, not_not] at hnone
        by_cases hdigit : isDigit d = true
        · exact Or.inl hdigit
        · exact Or.inr (hnone (Bool.eq_false_iff.2 hdigit))

/-- Underscores in front of a row make it a longer one. -/
theorem row_of_dropWhile {cs : List Char}
    (h : ∀ c ∈ cs.dropWhile (· == '_'), isDigit c = true ∨ c = '_') :
    ∀ c ∈ cs, isDigit c = true ∨ c = '_' := by
  intro c hc
  rw [← List.takeWhile_append_dropWhile (p := (· == '_')) (l := cs)] at hc
  rcases List.mem_append.1 hc with hfront | hrest
  · exact Or.inr (by simpa using List.mem_takeWhile_imp hfront)
  · exact h c hrest

/-- The characters that `scan` takes, given what stands in front of them. -/
structure Scanned (point seen : Bool) (cs : List Char) : Prop where
  marks : ∀ c ∈ cs, isDigit c = true ∨ c = '_' ∨ c = '.'
  points : cs.count '.' + (if point then 1 else 0) ≤ 1
  digits : seen = true ∨ ∃ c ∈ cs, isDigit c = true

theorem scanned_of_row {cs : List Char} (h : ∀ c ∈ cs, isDigit c = true ∨ c = '_') (point : Bool) :
    Scanned point true cs where
  marks c hc := (h c hc).imp_right Or.inl
  points := by
    have hcount : cs.count '.' = 0 := List.count_eq_zero.2 fun hpoint => by
      rcases h _ hpoint with hdigit | hmark
      · cases hdigit
      · cases hmark
    rw [hcount]
    split <;> decide
  digits := Or.inl rfl

theorem exists_digit_cons (c : Char) {cs : List Char} (h : ∃ d ∈ cs, isDigit d = true) :
    ∃ d ∈ c :: cs, isDigit d = true := by
  obtain ⟨d, hd, hdigit⟩ := h
  exact ⟨d, List.mem_cons_of_mem c hd, hdigit⟩

theorem Scanned.cons {point seen : Bool} {c : Char} {cs : List Char} (h : Scanned point seen cs)
    (hpoint : c ≠ '.') (hmark : isDigit c = true ∨ c = '_') : Scanned point seen (c :: cs) where
  marks := List.forall_mem_cons.2 ⟨hmark.imp_right Or.inl, h.marks⟩
  points := by
    rw [List.count_cons_of_ne hpoint]
    exact h.points
  digits := h.digits.imp_right (exists_digit_cons c)

theorem Scanned.digit {point : Bool} {c : Char} {cs : List Char} (h : Scanned point true cs)
    (hc : isDigit c = true) (seen : Bool) : Scanned point seen (c :: cs) where
  marks := (h.cons (by rintro rfl; cases hc) (Or.inl hc)).marks
  points := (h.cons (by rintro rfl; cases hc) (Or.inl hc)).points
  digits := Or.inr ⟨c, List.mem_cons_self, hc⟩

theorem Scanned.point {seen : Bool} {cs : List Char} (h : Scanned true seen cs) :
    Scanned false seen ('.' :: cs) where
  marks := List.forall_mem_cons.2 ⟨Or.inr (Or.inr rfl), h.marks⟩
  points := by
    rw [List.count_cons_self]
    exact h.points
  digits := h.digits.imp_right (exists_digit_cons '.')

theorem scanned_of_scan {m n : Magnitude} {point seen : Bool} {cs : List Char}
    (h : m.scan point seen cs = .ok n) : Scanned point seen cs := by
  induction cs generalizing m point seen with
  | nil =>
      rw [scan] at h
      split at h
      · next hseen => exact ⟨by simp, by cases point <;> decide, Or.inl hseen⟩
      · cases h
  | cons c cs ih =>
      rw [scan] at h
      split at h
      · next digit hdigit =>
          obtain ⟨hc, rfl⟩ := eq_of_digitValue? hdigit
          refine Scanned.digit ?_ hc seen
          split at h
          · split at h
            · exact scanned_of_row (fun d hd => row_of_roundAt h d (List.mem_cons_of_mem c hd)) point
            · cases h
          · split at h
            · refine scanned_of_row ?_ point
              split at h
              · exact row_of_roundAt h
              · exact row_of_dropWhile (row_of_roundAt h)
            · exact ih h
      · split at h
        · next hpoint =>
            obtain ⟨rfl, hbefore⟩ := hpoint
            rw [Bool.not_eq_true] at hbefore
            subst hbefore
            exact (ih h).point
        · split at h
          · next hmark =>
              obtain ⟨rfl, -⟩ := hmark
              exact (ih h).cons (by decide) (Or.inr rfl)
          · cases h

end Magnitude

namespace Amount

/-! ### Plain numerals -/

/-- The number that an amount is. -/
def value (a : Amount) : ℚ := if a.negative then -a.toMagnitude.value else a.toMagnitude.value

/-- A number that an amount can be without being rounded. -/
def CanHold (x : ℚ) : Prop := ∃ a : Amount, a.value = x

theorem exists_magnitude_of_canHold {x : ℚ} (h : CanHold x) : ∃ m : Magnitude, m.value = |x| := by
  obtain ⟨a, rfl⟩ := h
  refine ⟨a.toMagnitude, ?_⟩
  have hpos := a.toMagnitude.value_nonneg
  rw [value]
  split
  · rw [abs_neg, abs_of_nonneg hpos]
  · rw [abs_of_nonneg hpos]

theorem value_signed (m : Magnitude) (negative : Bool) :
    (m.signed negative).value = if negative then -m.value else m.value := by
  rw [value]
  by_cases hzero : m.mantissa = 0
  · have hvalue : m.value = 0 := by rw [Magnitude.value, hzero]; simp
    have hsigned : (m.signed negative).toMagnitude.value = 0 := hvalue
    simp [hvalue, hsigned]
  · simp only [Magnitude.signed, bne_iff_ne.2 hzero, Bool.and_true]

theorem abs_signed_sub (negative : Bool) (u v : ℚ) :
    |(if negative then -u else u) - if negative then -v else v| = |u - v| := by
  split
  · rw [← neg_sub, neg_sub_neg, abs_neg]
  · rfl

/-- What a number may be read as. -/
structure Approximates (a : Amount) (x : ℚ) : Prop where
  exact : CanHold x → a.value = x
  near : |a.value - x| < 1 / 10 ^ a.scale
  full : a.value = x ∨ a.scale = scaleLimit ∨ mantissaLimit ≤ 10 * a.mantissa
  negative : a.isNegative = true ↔ x < 0 ∧ a.mantissa ≠ 0

theorem mantissa_eq_zero_iff (m : Magnitude) : m.mantissa = 0 ↔ m.value = 0 := by
  rw [Magnitude.value, div_eq_zero_iff, Nat.cast_eq_zero]
  simp

theorem approximates_signed {m : Magnitude} {x : ℚ} (h : m.Approximates x) (hx : 0 ≤ x)
    (negative : Bool) : (m.signed negative).Approximates (if negative then -x else x) := by
  have hvalue := value_signed m negative
  have hsign := isNegative_signed m negative
  have habs : |if negative = true then -x else x| = x := by
    split
    · rw [abs_neg, abs_of_nonneg hx]
    · rw [abs_of_nonneg hx]
  refine ⟨fun hhold => ?_, ?_, h.full.imp_left fun hexact => ?_, ?_⟩
  · obtain ⟨k, hk⟩ := exists_magnitude_of_canHold hhold
    rw [habs] at hk
    rw [hvalue, h.exact k hk]
  · rw [hvalue, abs_signed_sub]
    exact h.near
  · rw [hvalue, hexact]
  · rw [hsign]
    show (negative && m.mantissa != 0) = true ↔ _ ∧ m.mantissa ≠ 0
    cases negative with
    | false => simp [hx.not_gt]
    | true =>
        -- a number that is not read as zero is not zero
        have hpos : m.mantissa ≠ 0 → 0 < x := fun hne => lt_of_le_of_ne hx fun hzero => hne <| by
          have hread := h.exact .zero (by rw [← hzero]; exact (mantissa_eq_zero_iff .zero).1 rfl)
          rw [mantissa_eq_zero_iff, hread, ← hzero]
        simpa using hpos

/-! #### Signs -/

theorem unsigned_nonneg (cs : List Char) : 0 ≤ unsigned cs := by
  rw [unsigned]
  positivity

theorem unsigned_cons_sign {c : Char} (hdigit : isDigit c = false) (hpoint : c ≠ '.')
    (cs : List Char) : unsigned (c :: cs) = unsigned cs := by
  rw [unsigned_eq_continued, continued_mark _ _ _ hdigit hpoint, ← unsigned_eq_continued]

theorem unsigned_withoutSign (cs : List Char) : unsigned (withoutSign cs) = unsigned cs := by
  rw [withoutSign]
  split
  · next hsign =>
      cases cs with
      | nil => rfl
      | cons c rest =>
          simp only [List.head?_cons, Option.some.injEq] at hsign
          rcases hsign with rfl | rfl <;> exact (unsigned_cons_sign (by decide) (by decide) rest).symm
  · rfl

theorem plain_eq_ok {cs : List Char} {a : Amount} (h : plain cs = .ok a) :
    ∃ m, Magnitude.zero.scan false false (withoutSign cs) = .ok m ∧
      a = m.signed (cs.head? = some '-') := by
  have hmap : plain cs
      = (Magnitude.zero.scan false false (withoutSign cs)).map (·.signed (cs.head? = some '-')) := by
    unfold plain at h ⊢
    split
    · cases h
    · rfl
    · rfl
    · next hne hminus hplus =>
        cases cs with
        | nil => cases h
        | cons c rest =>
            have hc : c ≠ '-' := fun hc => hminus rest (by rw [hc])
            have hc' : c ≠ '+' := fun hc => hplus rest (by rw [hc])
            simp [withoutSign, hc, hc']
  obtain ⟨m, hscan, rfl⟩ := map_eq_ok.1 (hmap ▸ h)
  exact ⟨m, hscan, rfl⟩

/-- A plain text is read as its number, or rounded. -/
theorem approximates_of_plain {cs : List Char} {a : Amount} (h : plain cs = .ok a) :
    IsUnsigned (withoutSign cs) ∧ a.Approximates (Numeral.signed cs) := by
  obtain ⟨m, hscan, rfl⟩ := plain_eq_ok h
  obtain ⟨hmarks, hpoints, hdigits⟩ := Magnitude.scanned_of_scan hscan
  have hread : m.Approximates (unsigned cs) := by
    rw [← unsigned_withoutSign, unsigned_eq_continued]
    exact Magnitude.approximates_of_scan hscan
  have hsigned := approximates_signed hread (unsigned_nonneg cs) (cs.head? = some '-')
  refine ⟨⟨hmarks, hpoints, hdigits.resolve_left (by simp)⟩, ?_⟩
  rw [Numeral.signed]
  simpa using hsigned

theorem mem_withoutSign {cs : List Char} {c : Char} (h : c ∈ cs) :
    c = '-' ∨ c = '+' ∨ c ∈ withoutSign cs := by
  rw [withoutSign]
  split
  · next hsign =>
      cases h with
      | head rest => simpa [or_assoc] using Or.inl hsign
      | tail d hrest => exact Or.inr (Or.inr hrest)
  · exact Or.inr (Or.inr h)

/-- No letter stands in a plain numeral. -/
theorem base_of_unsigned {cs : List Char} (h : IsUnsigned (withoutSign cs)) : base cs = cs := by
  refine List.takeWhile_eq_self_iff.2 fun c hc => ?_
  rw [Bool.not_eq_true']
  rcases mem_withoutSign hc with rfl | rfl | hmem
  · rfl
  · rfl
  · rcases h.marks c hmem with hdigit | rfl | rfl
    · rw [isPowerMark, Bool.or_eq_false_iff, beq_eq_false_iff_ne, beq_eq_false_iff_ne]
      constructor
      · rintro rfl
        cases hdigit
      · rintro rfl
        cases hdigit
    · rfl
    · rfl

end Amount

end LedgerMatch
