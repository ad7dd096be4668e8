import LedgerMatch.Proofs.Amount.Notation
import LedgerMatch.Proofs.Amount.Plain
import LedgerMatch.Proofs.Intake.Canonical

/-!
# Amounts are read as the numbers they denote, or rounded

A power of ten moves the point of what was read in front of it. A multiplication is exact, or refused.
A division may leave decimals out that do not fit. So an amount is the number that a text denotes
if and only if some amount is that number, and some amount is the base of the numeral. Any other text
is refused or rounded, by less than one unit of the last decimal; a small negative number may be
rounded to zero, so that it is read as no debit.
-/

namespace LedgerMatch

-- Powers of whole numbers are the core ones, whatever else is imported.
attribute [local instance (2000)] instPowNat

open Text Numeral

namespace Amount

/-! ### Powers of ten -/

/-- What a number may be read as that is another number times a power of ten. -/
structure Scales (b : Amount) (y x : ℚ) : Prop where
  exact_iff : b.value = x ↔ CanHold y ∧ CanHold x
  near : |b.value - x| < 1 / 10 ^ b.scale
  negative : b.isNegative = true ↔ x < 0 ∧ b.mantissa ≠ 0

theorem Approximates.scales {a : Amount} {x : ℚ} (h : a.Approximates x) : a.Scales x x where
  exact_iff := ⟨fun hexact => ⟨⟨a, hexact⟩, ⟨a, hexact⟩⟩, fun hhold => h.exact hhold.2⟩
  near := h.near
  negative := h.negative

theorem magnitude_of_ofParts? {negative : Bool} {mantissa scale : Nat} {b : Amount}
    (h : ofParts? negative mantissa scale = some b) :
    ∃ m : Magnitude, m.mantissa = mantissa ∧ m.scale = scale ∧ b = m.signed negative := by
  rw [ofParts?, Option.map_eq_some_iff] at h
  obtain ⟨m, hm, rfl⟩ := h
  obtain ⟨hmantissa, hscale⟩ := Magnitude.parts_of_ofParts? hm
  exact ⟨m, hmantissa, hscale, rfl⟩

section

variable {a b : Amount} {y : ℚ}

/-- An amount whose magnitude is scaled exactly. -/
theorem Approximates.scales_signed (h : a.Approximates y) {f : ℚ} (hf : 0 < f) {m : Magnitude}
    (hm : m.value = a.toMagnitude.value * f)
    (hnear : a.value = y ∨ 1 / 10 ^ a.scale * f ≤ 1 / 10 ^ m.scale) :
    (m.signed a.negative).Scales y (y * f) := by
  have hvalue : (m.signed a.negative).value = a.value * f := by
    rw [value_signed, value, hm]
    split
    · rw [neg_mul]
    · rfl
  have hmantissa : m.mantissa = 0 ↔ a.mantissa = 0 := by
    rw [mantissa_eq_zero_iff, hm, mantissa_eq_zero_iff, mul_eq_zero, or_iff_left hf.ne']
  refine ⟨?_, ?_, ?_⟩
  · rw [hvalue, mul_left_inj' hf.ne']
    refine ⟨fun hexact => ⟨⟨a, hexact⟩, ⟨_, hvalue.trans (by rw [hexact])⟩⟩, fun hhold => ?_⟩
    exact h.exact hhold.1
  · rw [hvalue, ← sub_mul, abs_mul, abs_of_pos hf]
    show _ < 1 / 10 ^ m.scale
    rcases hnear with hexact | hle
    · rw [hexact, sub_self, abs_zero, zero_mul]
      positivity
    · exact (mul_lt_mul_of_pos_right h.near hf).trans_le hle
  · have hsign : (m.signed a.negative).isNegative = a.isNegative := by
      rw [isNegative_signed]
      show (a.negative && m.mantissa != 0) = (a.negative && a.mantissa != 0)
      simp [bne, Bool.beq_eq_decide_eq, hmantissa]
    have hbelow : y * f < 0 * f ↔ y < 0 := mul_lt_mul_iff_of_pos_right hf
    rw [zero_mul] at hbelow
    rw [hsign, h.negative, hbelow, Ne, Ne, ← hmantissa]
    rfl

theorem scales_of_multiplyByPower {n : Nat} (h : a.multiplyByPower n = .ok b)
    (ha : a.Approximates y) : b.Scales y (y * 10 ^ n) := by
  have hten : (0 : ℚ) < 10 ^ n := by positivity
  rw [multiplyByPower] at h
  split at h
  · next hfew =>
      split at h
      · next hparts =>
          -- decimals are taken away
          cases h
          obtain ⟨m, hmantissa, hscale, rfl⟩ := magnitude_of_ofParts? hparts
          have hpow : (10 : ℚ) ^ a.scale = 10 ^ m.scale * 10 ^ n := by
            rw [← pow_add, hscale, Nat.sub_add_cancel hfew]
          refine ha.scales_signed hten ?_ (Or.inr ?_)
          · rw [Magnitude.value, Magnitude.value, hmantissa, hpow]
            field_simp
          · rw [hpow]
            field_simp
            exact le_refl _
      · cases h
  · next hmany =>
      split at h
      · cases h
      · next hlimit =>
          split at h
          · next hparts =>
              -- zeros are appended, so that a base with a further digit would not fit
              cases h
              obtain ⟨m, hmantissa, hscale, rfl⟩ := magnitude_of_ofParts? hparts
              refine ha.scales_signed hten ?_ (Or.inl ?_)
              · rw [a.toMagnitude.value_mul (by omega), Magnitude.value, hmantissa, hscale, pow_zero,
                  div_one]
              · have hlt := m.mantissa_lt
                have hpow : 10 ^ 1 ≤ 10 ^ (n - a.scale) := Nat.pow_le_pow_right (by decide) (by omega)
                have hle := Nat.mul_le_mul_left a.mantissa hpow
                exact ha.full.resolve_right (by omega)
          · cases h

theorem roundHalfUp_near (num : Nat) {den : Nat} (h : 0 < den) :
    |(roundHalfUp num den : ℚ) - num / den| ≤ 1 / 2 := by
  have hden : (0 : ℚ) < den := by exact_mod_cast h
  have hlower := Nat.div_mul_le_self (2 * num + den) (2 * den)
  have hupper := Nat.lt_mul_div_succ (2 * num + den) (show 0 < 2 * den by omega)
  rw [← roundHalfUp] at hlower hupper
  have hlower' : (roundHalfUp num den * (2 * den) : ℚ) ≤ 2 * num + den := by exact_mod_cast hlower
  have hupper' : (2 * num + den : ℚ) < 2 * den * (roundHalfUp num den + 1) := by
    exact_mod_cast hupper
  have hquotient : (num : ℚ) = num / den * den := (div_mul_cancel₀ _ hden.ne').symm
  rw [abs_le]
  constructor <;> nlinarith

/-- A magnitude of all decimals that is rounded from one of more decimals. -/
theorem divided_near {m r : Magnitude} {n : Nat} (hmany : scaleLimit < m.scale + n)
    (hmantissa : r.mantissa = roundHalfUp m.mantissa (10 ^ (m.scale + n - scaleLimit)))
    (hscale : r.scale = scaleLimit) :
    |r.value - m.value * (10 ^ n)⁻¹| ≤ 1 / 2 * (1 / 10 ^ scaleLimit) ∧
      ∀ j : Magnitude, j.value = m.value * (10 ^ n)⁻¹ → r.value = j.value := by
  obtain ⟨k, hk⟩ := Nat.exists_eq_add_of_lt hmany
  have hdropped : m.scale + n - scaleLimit = k + 1 := by omega
  have hpow : (10 : ℚ) ^ m.scale * 10 ^ n = 10 ^ (k + 1) * 10 ^ scaleLimit := by
    rw [← pow_add, ← pow_add, hk]
    congr 1
    omega
  have hvalue : m.value * (10 ^ n)⁻¹ = m.mantissa / 10 ^ (k + 1) * (1 / 10 ^ scaleLimit) := by
    rw [Magnitude.value, ← div_eq_mul_inv, div_div, hpow, mul_one_div, div_div]
  have hr : r.value = roundHalfUp m.mantissa (10 ^ (k + 1)) * (1 / 10 ^ scaleLimit) := by
    rw [Magnitude.value, hmantissa, hscale, hdropped, mul_one_div]
  constructor
  · have hnear := roundHalfUp_near m.mantissa (ten_pow_pos (k + 1))
    rw [hr, hvalue, ← sub_mul, abs_mul, abs_of_pos (show (0 : ℚ) < 1 / 10 ^ scaleLimit by positivity)]
    push_cast at hnear
    gcongr
  · intro j hj
    -- all digits that are left out are zeros
    have hwhole := j.value_mul j.scale_le
    rw [hj, hvalue, mul_assoc, one_div_mul_cancel (by positivity), mul_one,
      div_eq_iff (by positivity)] at hwhole
    have hdigits : m.mantissa = j.mantissa * 10 ^ (scaleLimit - j.scale) * 10 ^ (k + 1) := by
      exact_mod_cast hwhole
    have hround : roundHalfUp m.mantissa (10 ^ (k + 1)) = j.mantissa * 10 ^ (scaleLimit - j.scale) :=
      roundHalfUp_of_near (by rw [← hdigits]; have := ten_pow_pos (k + 1); omega)
        (by rw [← hdigits]; have := ten_pow_pos (k + 1); omega)
    rw [hr, hround, ← j.value_mul j.scale_le, mul_assoc, mul_one_div_cancel (by positivity), mul_one]

theorem divideByPower_cases {lossy : Bool} {n : Nat} (h : a.divideByPower lossy n = .ok b) :
    n ≤ scaleLimit ∧
      ((∃ m : Magnitude, m.mantissa = a.mantissa ∧ m.scale = a.scale + n ∧
          b = m.signed a.negative) ∨
        (scaleLimit < a.scale + n ∧ ∃ r : Magnitude,
          r.mantissa = roundHalfUp a.mantissa (10 ^ (a.scale + n - scaleLimit)) ∧
          r.scale = scaleLimit ∧ b = ⟨r, a.negative⟩)) := by
  rw [divideByPower] at h
  split at h
  · cases h
  · next hlimit =>
      refine ⟨Nat.le_of_not_lt hlimit, ?_⟩
      split at h
      · next hparts =>
          cases h
          exact Or.inl (magnitude_of_ofParts? hparts)
      · next hparts =>
          have hmany : scaleLimit < a.scale + n := by
            by_contra hfew
            have := (ofParts?_eq_none_iff (Nat.le_of_not_lt hfew)).1 hparts
            have := a.mantissa_lt
            omega
          cases hr : Magnitude.ofParts? (roundHalfUp a.mantissa (10 ^ (a.scale + n - scaleLimit)))
            scaleLimit with
          | none => simp [hr] at h
          | some r =>
              simp only [hr] at h
              split at h
              · cases h
                obtain ⟨hmantissa, hscale⟩ := Magnitude.parts_of_ofParts? hr
                exact Or.inr ⟨hmany, r, hmantissa, hscale, rfl⟩
              · cases h

/-- An amount whose decimals are rounded away. -/
theorem Approximates.scales_of_rounded {n : Nat} (h : a.Approximates y) (hn : n ≤ scaleLimit)
    (hmany : scaleLimit < a.scale + n) {r : Magnitude}
    (hmantissa : r.mantissa = roundHalfUp a.mantissa (10 ^ (a.scale + n - scaleLimit)))
    (hscale : r.scale = scaleLimit) : Scales ⟨r, a.negative⟩ y (y * (10 ^ n)⁻¹) := by
  have hf : (0 : ℚ) < (10 ^ n)⁻¹ := by positivity
  obtain ⟨hrounded, hexact⟩ := divided_near (m := a.toMagnitude) hmany hmantissa hscale
  have hvalue : a.value * (10 ^ n)⁻¹ = if a.negative then -(a.toMagnitude.value * (10 ^ n)⁻¹)
      else a.toMagnitude.value * (10 ^ n)⁻¹ := by
    rw [value, ite_mul, neg_mul]
  have hb : value ⟨r, a.negative⟩ = if a.negative then -r.value else r.value := rfl
  refine ⟨⟨fun hsame => ⟨?_, ⟨_, hsame⟩⟩, fun hhold => ?_⟩, ?_, ?_⟩
  · -- the decimals of the number are those of the base and as many as the power moves
    refine ⟨⟨⟨r.mantissa, r.scale - n, r.mantissa_lt, Nat.le_trans (Nat.sub_le _ _) r.scale_le⟩,
      a.negative⟩, ?_⟩
    have hpow : (10 : ℚ) ^ r.scale = 10 ^ (r.scale - n) * 10 ^ n := by
      rw [← pow_add, Nat.sub_add_cancel (hscale ▸ hn)]
    have hbase : value ⟨⟨r.mantissa, r.scale - n, r.mantissa_lt,
        Nat.le_trans (Nat.sub_le _ _) r.scale_le⟩, a.negative⟩ = value ⟨r, a.negative⟩ * 10 ^ n := by
      rw [value, value, Magnitude.value, Magnitude.value, hpow, ite_mul, neg_mul, ← div_div,
        div_mul_cancel₀ _ (by positivity)]
    rw [hbase, hsame, inv_mul_cancel_right₀ (by positivity)]
  · obtain ⟨j, hj⟩ := exists_magnitude_of_canHold hhold.2
    rw [← h.exact hhold.1] at hj ⊢
    have hsize : |a.value * (10 ^ n)⁻¹| = a.toMagnitude.value * (10 ^ n)⁻¹ := by
      rw [hvalue]
      have hpos := mul_nonneg a.toMagnitude.value_nonneg hf.le
      split
      · rw [abs_neg, abs_of_nonneg hpos]
      · rw [abs_of_nonneg hpos]
    rw [hsize] at hj
    rw [hvalue, hb, hexact j hj, hj]
  · have hfirst : |value ⟨r, a.negative⟩ - a.value * (10 ^ n)⁻¹| ≤ 1 / 2 * (1 / 10 ^ scaleLimit) := by
      rw [hvalue, hb, abs_signed_sub]
      exact hrounded
    have hsecond : |a.value * (10 ^ n)⁻¹ - y * (10 ^ n)⁻¹| < 1 / 10 ^ (scaleLimit + 1) := by
      rw [← sub_mul, abs_mul, abs_of_pos hf]
      calc |a.value - y| * (10 ^ n)⁻¹ < 1 / 10 ^ a.scale * (10 ^ n)⁻¹ := by
            gcongr
            exact h.near
        _ = 1 / 10 ^ (a.scale + n) := by rw [pow_add, ← div_eq_mul_inv, div_div]
        _ ≤ 1 / 10 ^ (scaleLimit + 1) :=
            one_div_le_one_div_of_le (by positivity) (pow_le_pow_right₀ (by norm_num) hmany)
    have hsum := abs_sub_le (value ⟨r, a.negative⟩) (a.value * (10 ^ n)⁻¹) (y * (10 ^ n)⁻¹)
    have hunit : (0 : ℚ) < 1 / 10 ^ scaleLimit := by positivity
    have hnext : (1 : ℚ) / 10 ^ (scaleLimit + 1) = 1 / 10 * (1 / 10 ^ scaleLimit) := by
      rw [pow_succ]
      ring
    show _ < 1 / 10 ^ r.scale
    rw [hscale]
    linarith
  · have hzero : a.mantissa = 0 → r.mantissa = 0 := fun hzero => by
      rw [hmantissa, hzero]
      exact roundHalfUp_of_near (by have := ten_pow_pos (a.scale + n - scaleLimit); omega)
        (by have := ten_pow_pos (a.scale + n - scaleLimit); omega)
    have hbelow : y * (10 ^ n)⁻¹ < 0 * (10 ^ n)⁻¹ ↔ y < 0 := mul_lt_mul_iff_of_pos_right hf
    rw [zero_mul] at hbelow
    have hsign := h.negative
    rw [isNegative, Bool.and_eq_true, bne_iff_ne] at hsign ⊢
    rw [hbelow]
    tauto

theorem scales_of_divideByPower {lossy : Bool} {n : Nat} (h : a.divideByPower lossy n = .ok b)
    (ha : a.Approximates y) : b.Scales y (y * (10 ^ n)⁻¹) := by
  obtain ⟨hn, ⟨m, hmantissa, hscale, rfl⟩ | ⟨hmany, r, hmantissa, hscale, rfl⟩⟩ :=
    divideByPower_cases h
  · refine ha.scales_signed (by positivity) ?_ (Or.inr ?_)
    · rw [Magnitude.value, Magnitude.value, hmantissa, hscale, pow_add]
      field_simp
    · rw [hscale, pow_add]
      field_simp
      exact le_refl _
  · exact ha.scales_of_rounded hn hmany hmantissa hscale

end

/-! ### Numerals with a power -/

theorem digits_of_all {ds : List Char} (h : ∀ c ∈ ds, isDigit c = true) : digits ds = ds :=
  List.filter_eq_self.2 h

theorem powerSize?_eq_some {cs : List Char} {n : Nat} (h : powerSize? cs = some n) :
    (∃ sign ∈ [[], ['+']], ∃ ds ≠ [], (∀ c ∈ ds, isDigit c = true) ∧ cs = sign ++ ds) ∧
      n = digitsValue (digits cs) := by
  have hnumber : number? (if cs.head? = some '+' then cs.tail else cs) = some n := by
    rw [powerSize?] at h
    split at h
    · next k hk =>
        rw [Option.ite_none_right_eq_some] at h
        rw [hk, h.2]
    · cases h
  obtain ⟨hne, hall, rfl⟩ := number?_eq_some.1 hnumber
  split at hne
  · next hsign =>
      rw [if_pos hsign] at hall ⊢
      cases cs with
      | nil => cases hsign
      | cons c rest =>
          cases hsign
          refine ⟨⟨['+'], by simp, rest, hne, hall, rfl⟩, ?_⟩
          rw [digits_cons_mark (by decide), digits_of_all (by exact hall)]
          rfl
  · next hsign =>
      rw [if_neg hsign] at hall ⊢
      exact ⟨⟨[], by simp, cs, hne, hall, rfl⟩, by rw [digits_of_all hall]⟩

theorem power?_eq_some {cs : List Char} {p : Power} (h : power? cs = some p) :
    IsPower cs ∧ p = ⟨cs.head? = some '-', digitsValue (digits cs)⟩ := by
  unfold power? at h
  split at h
  · next rest =>
      obtain ⟨n, hn, rfl⟩ := Option.map_eq_some_iff.1 h
      obtain ⟨⟨sign, hsign, ds, hne, hall, rfl⟩, rfl⟩ := powerSize?_eq_some hn
      refine ⟨⟨'-' :: sign, ?_, ds, hne, hall, rfl⟩, rfl⟩
      simp only [List.mem_cons, List.not_mem_nil, or_false] at hsign
      rcases hsign with rfl | rfl <;> simp
  · next hminus =>
      obtain ⟨n, hn, rfl⟩ := Option.map_eq_some_iff.1 h
      obtain ⟨⟨sign, hsign, ds, hne, hall, hcs⟩, rfl⟩ := powerSize?_eq_some hn
      refine ⟨⟨sign, ?_, ds, hne, hall, hcs⟩, ?_⟩
      · simp only [List.mem_cons, List.not_mem_nil, or_false] at hsign
        rcases hsign with rfl | rfl <;> simp
      · cases cs with
        | nil => rfl
        | cons c rest =>
            have hc : c ≠ '-' := fun hc => hminus rest (by rw [hc])
            simp [hc]

theorem scientific_eq_ok {lossy : Bool} {cs : List Char} {b : Amount}
    (h : scientific lossy cs = .ok b) :
    ∃ a p, plain (base cs) = .ok a ∧ power? (power cs) = some p ∧
      (if p.negative then a.divideByPower lossy p.size else a.multiplyByPower p.size) = .ok b := by
  have hmark : (fun c : Char => c != 'e' && c != 'E') = fun c => !isPowerMark c := by
    funext c
    simp [isPowerMark, bne]
  rw [scientific, hmark] at h
  split at h
  · cases h
  · next mark behind hbehind =>
      have hpower : power cs = behind := by rw [power, hbehind]; rfl
      split at h
      · cases h
      · next a ha =>
          split at h
          · cases h
          · next p hp => exact ⟨a, p, ha, hpower ▸ hp, h⟩

/-! ### Amounts and the numerals they are read from -/

/-- What an amount has to do with the numeral that it was read from. -/
structure Reads (a : Amount) (cs : List Char) : Prop where
  numeral : IsNumeral cs
  exact_iff : a.value = Numeral.value cs ↔
    CanHold (Numeral.signed (base cs)) ∧ CanHold (Numeral.value cs)
  near : |a.value - Numeral.value cs| < 1 / 10 ^ a.scale
  debit_iff : Direction.ofAmount a = .debit ↔ Numeral.value cs < 0 ∧ a.mantissa ≠ 0

theorem Scales.reads {a : Amount} {cs : List Char} (hcs : IsNumeral cs)
    (h : a.Scales (Numeral.signed (base cs)) (Numeral.value cs)) : a.Reads cs where
  numeral := hcs
  exact_iff := h.exact_iff
  near := h.near
  debit_iff := by
    rw [Direction.ofAmount_eq_debit_iff, ← isNegative_iff]
    exact h.negative

theorem reads_of_plain {cs : List Char} {a : Amount} (h : plain cs = .ok a) : a.Reads cs := by
  obtain ⟨hcs, ha⟩ := approximates_of_plain h
  have hbase := base_of_unsigned hcs
  have hpower : power cs = [] := by
    have happend := List.takeWhile_append_dropWhile (p := fun c => !isPowerMark c) (l := cs)
    rw [← base, hbase, List.append_right_eq_self] at happend
    rw [power, happend]
    rfl
  have hvalue : Numeral.value cs = Numeral.signed cs := by
    rw [Numeral.value, hbase, exponent, hpower]
    simp [digits, digitsValue]
  refine Scales.reads ⟨by rwa [hbase], Or.inl hbase⟩ ?_
  rw [hvalue, hbase]
  exact ha.scales

theorem reads_of_scientific {lossy : Bool} {cs : List Char} {b : Amount}
    (h : scientific lossy cs = .ok b) : b.Reads cs := by
  obtain ⟨a, p, ha, hp, hb⟩ := scientific_eq_ok h
  obtain ⟨hcs, ha⟩ := approximates_of_plain ha
  obtain ⟨hpower, rfl⟩ := power?_eq_some hp
  refine Scales.reads ⟨hcs, Or.inr hpower⟩ ?_
  rw [Numeral.value, exponent]
  simp only [decide_eq_true_eq] at hb
  split at hb
  · rw [if_pos ‹_›, zpow_neg, zpow_natCast]
    exact scales_of_divideByPower hb ha
  · rw [if_neg ‹_›, zpow_natCast]
    exact scales_of_multiplyByPower hb ha

theorem reads_of_ofChars {cs : List Char} {a : Amount} (h : ofChars cs = .ok a) : a.Reads cs := by
  rw [ofChars] at h
  split at h
  · next hplain =>
      cases h
      exact reads_of_plain hplain
  · split at h
    · next hlossy =>
        cases h
        exact reads_of_scientific hlossy
    · exact reads_of_scientific h

theorem reads_of_ofText {s : String} {a : Amount} (h : ofText s = .ok a) :
    a.Reads (Text.trim s).toList := by
  rw [ofText] at h
  split at h
  · next hread =>
      cases h
      exact reads_of_ofChars hread
  · cases h

end Amount

/-- A text is read as the number that it denotes, or as one that is near it, or it is refused as an
amount. A line has the direction of what was read, and an entry is made unless what was read is
negative. -/
theorem amounts_read_or_rounded (s : String) :
    (∀ a, Amount.ofText s = .ok a → a.Reads (Text.trim s).toList) ∧
      (∀ failure, Amount.ofText s = .error failure →
        ∃ fault, failure = .amount (Text.trim s) fault) ∧
      (∀ source bank id date l, StatementLine.ofTexts source bank id date s = .ok l →
        l.amount.Reads (Text.trim s).toList ∧
        (l.direction = .debit ↔
          Numeral.value (Text.trim s).toList < 0 ∧ l.amount.mantissa ≠ 0)) ∧
      ∀ source id time direction e, LedgerEntry.ofTexts source id time direction s = .ok e →
        e.amount.Reads (Text.trim s).toList ∧
        (0 ≤ Numeral.value (Text.trim s).toList ∨ e.amount.mantissa = 0) := by
  refine ⟨fun a ha => Amount.reads_of_ofText ha, fun failure hfailure => ?_, ?_, ?_⟩
  · rw [Amount.ofText] at hfailure
    split at hfailure
    · cases hfailure
    · next fault _ =>
        cases hfailure
        exact ⟨fault, rfl⟩
  · intro source bank id date l hl
    obtain ⟨-, day, a, ha, rfl⟩ := StatementLine.origin_of_ofTexts hl
    have hreads := Amount.reads_of_ofText ha
    exact ⟨hreads, hreads.debit_iff⟩
  · intro source id time direction e he
    obtain ⟨-, moment, d, a, rfl, -, ha, hpositive⟩ := LedgerEntry.origin_of_ofTexts he
    have hreads := Amount.reads_of_ofText ha
    have hdebit := hreads.debit_iff
    rw [Direction.ofAmount, hpositive] at hdebit
    refine ⟨hreads, ?_⟩
    by_contra hnone
    rw [not_or, not_le] at hnone
    exact absurd (hdebit.2 hnone) (by decide)

/-- A numeral with a power, an underscore and blanks around it. -/
def scaledDebit : String := " -1_2.50e1 "

/-- The number is read exactly, with one decimal. -/
theorem scaledDebit_read : ∃ a, Amount.ofText scaledDebit = .ok a ∧ a.text = "-125.0" ∧
    a.Reads (Text.trim scaledDebit).toList ∧ a.value = -125 ∧ Direction.ofAmount a = .debit := by
  have hparts : ((Amount.ofText scaledDebit).map fun a =>
      (a.text, a.mantissa, a.scale, a.negative, Direction.ofAmount a))
        = .ok ("-125.0", 1250, 1, true, .debit) := by
    decide +kernel
  obtain ⟨a, ha, hfields⟩ := map_eq_ok.1 hparts
  simp only [Prod.mk.injEq] at hfields
  obtain ⟨htext, hmantissa, hscale, hnegative, hdebit⟩ := hfields
  refine ⟨a, ha, htext, (amounts_read_or_rounded scaledDebit).1 a ha, ?_, hdebit⟩
  rw [Amount.value, if_pos hnegative, Magnitude.value, hmantissa, hscale]
  norm_num

/-! ### A debit that is read as a credit -/

/-- A negative number with 29 decimals, of which only the last one is not zero. -/
def tinyDebit : String := "-0.00000000000000000000000000001"

theorem tinyDebit_signed :
    Numeral.signed (Numeral.base (Text.trim tinyDebit).toList) = -(1 / 10 ^ 29) := by
  rw [show Numeral.base (Text.trim tinyDebit).toList = tinyDebit.toList by decide, Numeral.signed,
    if_pos (by decide), Numeral.unsigned,
    show Text.digitsValue (Numeral.digits tinyDebit.toList) = 1 by decide,
    show (Numeral.decimals tinyDebit.toList).length = 29 by decide, Nat.cast_one]

theorem tinyDebit_value : Numeral.value (Text.trim tinyDebit).toList = -(1 / 10 ^ 29) := by
  rw [Numeral.value, tinyDebit_signed,
    show Numeral.exponent (Text.trim tinyDebit).toList = 0 by decide, zpow_zero, mul_one]

/-- It is read as zero, so as a credit, and no row of a ledger is refused for it, whereas the same
number is refused where it is written with a power of ten. -/
theorem tinyDebit_read_as_credit :
    (∃ a, Amount.ofText tinyDebit = .ok a ∧ a.value = 0 ∧ Direction.ofAmount a = .credit ∧
      Numeral.value (Text.trim tinyDebit).toList = -(1 / 10 ^ 29) ∧
      ¬ Amount.CanHold (-(1 / 10 ^ 29)) ∧
      ∃ e, LedgerEntry.ofTexts ⟨"/in/system/s.csv"⟩ "T" "2025-03-06 00:00:00" "DEBIT" tinyDebit
        = .ok e ∧ e.amount = a) ∧
      Amount.ofText "-1e-29" = .error (.amount "-1e-29" (.scale 29)) ∧
      ¬ ∀ s a, Amount.ofText s = .ok a → a.value = Numeral.value (Text.trim s).toList := by
  have hparts : ((Amount.ofText tinyDebit).map fun a => (a.mantissa, Direction.ofAmount a))
      = .ok (0, .credit) := by
    decide +kernel
  obtain ⟨a, ha, hfields⟩ := map_eq_ok.1 hparts
  obtain ⟨hmantissa, hcredit⟩ := Prod.mk.inj hfields
  have hzero : a.value = 0 := by
    rw [Amount.value, Magnitude.value, hmantissa]
    simp
  have hne : a.value ≠ Numeral.value (Text.trim tinyDebit).toList := by
    rw [hzero, tinyDebit_value]
    norm_num
  have hrow : ((LedgerEntry.ofTexts ⟨"/in/system/s.csv"⟩ "T" "2025-03-06 00:00:00" "DEBIT"
      tinyDebit).map LedgerEntry.id) = .ok "T" := by
    decide +kernel
  obtain ⟨e, he, -⟩ := map_eq_ok.1 hrow
  obtain ⟨-, moment, d, b, rfl, -, hb, -⟩ := LedgerEntry.origin_of_ofTexts he
  refine ⟨⟨a, ha, hzero, hcredit, tinyDebit_value, fun hhold => hne ?_, _, he, ?_⟩,
    by decide +kernel, fun hall => hne (hall _ _ ha)⟩
  · refine (Amount.reads_of_ofText ha).exact_iff.2 ⟨?_, ?_⟩
    · rwa [tinyDebit_signed]
    · rwa [tinyDebit_value]
  · exact Except.ok.inj (hb.symm.trans ha)

end LedgerMatch
