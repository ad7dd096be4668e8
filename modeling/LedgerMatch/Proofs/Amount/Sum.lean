import LedgerMatch.Amount.Sum
import LedgerMatch.Proofs.Binary64.Order
import Mathlib.Algebra.Order.BigOperators.Group.List
import Mathlib.Algebra.Order.Group.Nat
import Mathlib.Algebra.Ring.Int.Defs
import Mathlib.Algebra.Ring.Nat

/-!
# Exact sums

A sum is exact whenever an amount can hold it, and only then: decimals are dropped from its end one
after the other, and all that go before it fits are zeros. Any other sum is rounded, by at most half
of a whole, or refused if it lies beyond the largest amount. So a list adds up exactly as long as
every total on the way can be held. Amounts with few decimals do so if they are not too large
together.
-/

namespace LedgerMatch

-- Powers of whole numbers are the core ones, whatever else is imported.
attribute [local instance (2000)] instPowNat

namespace Binary64

theorem signed_mul (negative : Bool) (m k : Nat) :
    signed negative m * (k : Int) = signed negative (m * k) := by
  cases negative with
  | false => exact (Int.natCast_mul m k).symm
  | true =>
      show -(m : Int) * k = -((m * k : Nat) : Int)
      rw [Int.neg_mul, Int.natCast_mul]

theorem signed_natAbs (n : Int) : signed (n < 0) n.natAbs = n := by
  rw [signed]
  split
  · next hnegative =>
      have hn : n < 0 := of_decide_eq_true hnegative
      omega
  · next hpositive =>
      have hn : ¬ n < 0 := fun h => hpositive (decide_eq_true h)
      omega

theorem mul_eq_signed (n : Int) (k : Nat) : n * (k : Int) = signed (n < 0) (n.natAbs * k) := by
  rw [← signed_mul, signed_natAbs]

theorem natAbs_signed_sub (negative : Bool) (m k : Nat) :
    (signed negative m - signed negative k).natAbs = ((m : Int) - k).natAbs := by
  cases negative with
  | false => rfl
  | true =>
      show (-(m : Int) - -(k : Int)).natAbs = ((m : Int) - k).natAbs
      omega

end Binary64

namespace Amount

open Binary64

theorem ten_pow_pos (k : Nat) : 0 < 10 ^ k := Nat.pow_pos (by decide)

/-- The units of so many decimals come in whole numbers of those of fewer decimals. -/
theorem ten_pow_split {places scale : Nat} (h : places ≤ scale) (hscale : scale ≤ scaleLimit) :
    10 ^ (scaleLimit - places) = 10 ^ (scale - places) * 10 ^ (scaleLimit - scale) := by
  rw [← Nat.pow_add]
  congr 1
  omega

theorem ten_pow_whole {scale : Nat} (hscale : scale ≤ scaleLimit) :
    10 ^ scale * 10 ^ (scaleLimit - scale) = 10 ^ scaleLimit :=
  (ten_pow_split (Nat.zero_le scale) hscale).symm

theorem mantissaAt_mul (a : Amount) {scale : Nat} (h : a.scale ≤ scale) (hscale : scale ≤ scaleLimit) :
    a.mantissaAt scale * ((10 ^ (scaleLimit - scale) : Nat) : Int) = a.units := by
  rw [mantissaAt, signed_mul, Nat.mul_assoc, ← ten_pow_split h hscale]
  rfl

theorem units_of_mantissa {a : Amount} (h : a.mantissa = 0) : a.units = 0 := by
  rw [units, h, Nat.zero_mul]
  cases a.negative <;> rfl

theorem natAbs_units (a : Amount) : a.units.natAbs = a.mantissa * 10 ^ (scaleLimit - a.scale) :=
  natAbs_signed _ _

/-! ### What an amount can hold -/

/-- A number of units that an amount can hold. -/
def Holdable (n : Int) : Prop := ∃ a : Amount, a.units = n

theorem holdable_units (a : Amount) : Holdable a.units := ⟨a, rfl⟩

/-- A number with few decimals that is not too large can be held. -/
theorem holdable_of_places {n : Int} {places : Nat} (hplaces : places ≤ scaleLimit)
    (hdvd : ((10 ^ (scaleLimit - places) : Nat) : Int) ∣ n)
    (hlt : n.natAbs < mantissaLimit * 10 ^ (scaleLimit - places)) : Holdable n := by
  have hmantissa : n.natAbs / 10 ^ (scaleLimit - places) < mantissaLimit :=
    Nat.div_lt_of_lt_mul (by rwa [Nat.mul_comm])
  have hexact : n.natAbs / 10 ^ (scaleLimit - places) * 10 ^ (scaleLimit - places) = n.natAbs :=
    Nat.div_mul_cancel (by simpa using Int.natAbs_dvd_natAbs.2 hdvd)
  refine ⟨⟨⟨_, places, hmantissa, hplaces⟩, n < 0⟩, ?_⟩
  show signed (n < 0) (n.natAbs / 10 ^ (scaleLimit - places) * 10 ^ (scaleLimit - places)) = n
  rw [hexact, signed_natAbs]

/-- An amount in a number of decimals, some of which are dropped. -/
theorem exists_mantissa_of_holdable {total : Int} {scale : Nat} (hscale : scale ≤ scaleLimit)
    (h : Holdable (total * ((10 ^ (scaleLimit - scale) : Nat) : Int))) :
    ∃ dropped ≤ scale, ∃ m < mantissaLimit, total.natAbs = m * 10 ^ dropped := by
  obtain ⟨a, ha⟩ := h
  have hsize : a.mantissa * 10 ^ (scaleLimit - a.scale)
      = total.natAbs * 10 ^ (scaleLimit - scale) := by
    rw [← natAbs_units, ha, Int.natAbs_mul, Int.natAbs_natCast]
  rcases Nat.le_total scale a.scale with hmore | hfewer
  · -- the amount has all the decimals of the total, and perhaps zeros behind them
    rw [ten_pow_split hmore a.scale_le, ← Nat.mul_assoc] at hsize
    have hmantissa : total.natAbs * 10 ^ (a.scale - scale) = a.mantissa :=
      (Nat.eq_of_mul_eq_mul_right (ten_pow_pos _) hsize).symm
    have hle := Nat.le_mul_of_pos_right total.natAbs (ten_pow_pos (a.scale - scale))
    have hlt := a.mantissa_lt
    exact ⟨0, Nat.zero_le _, total.natAbs, by omega, by rw [Nat.pow_zero, Nat.mul_one]⟩
  · rw [ten_pow_split hfewer hscale, ← Nat.mul_assoc] at hsize
    exact ⟨scale - a.scale, Nat.sub_le _ _, a.mantissa, a.mantissa_lt,
      (Nat.eq_of_mul_eq_mul_right (ten_pow_pos _) hsize).symm⟩

/-! ### Dropping decimals -/

theorem ofParts?_eq_none_iff {negative : Bool} {m places : Nat} (h : places ≤ scaleLimit) :
    ofParts? negative m places = none ↔ mantissaLimit ≤ m := by
  rw [ofParts?, Option.map_eq_none_iff, Magnitude.ofParts?]
  split
  · simp_all
  · simp_all

theorem units_of_ofParts? {negative : Bool} {m places : Nat} {c : Amount}
    (h : ofParts? negative m places = some c) :
    c.units = signed negative (m * 10 ^ (scaleLimit - places)) := by
  rw [ofParts?, Option.map_eq_some_iff] at h
  obtain ⟨magnitude, hparts, rfl⟩ := h
  rw [Magnitude.ofParts?] at hparts
  split at hparts
  · cases hparts
    by_cases hzero : m = 0
    · rw [units_of_mantissa (by exact hzero), hzero, Nat.zero_mul]
      cases negative <;> rfl
    · have hsign : (negative && m != 0) = negative := by simp [hzero]
      show signed (negative && m != 0) (m * 10 ^ (scaleLimit - places)) = _
      rw [hsign]
  · cases hparts

/-- The units left when decimals are dropped. -/
theorem ten_pow_dropped {scale dropped : Nat} (hscale : scale ≤ scaleLimit)
    (hdropped : dropped ≤ scale) :
    10 ^ (scaleLimit - (scale - dropped)) = 10 ^ dropped * 10 ^ (scaleLimit - scale) := by
  rw [ten_pow_split (Nat.sub_le scale dropped) hscale, Nat.sub_sub_self hdropped]

/-- What a total is rounded to when decimals are dropped from its end. -/
def rounded (total : Int) (scale dropped : Nat) : Int :=
  signed (total < 0)
    (roundHalfEven total.natAbs (10 ^ dropped) * 10 ^ (scaleLimit - (scale - dropped)))

theorem exists_dropped_of_fit? {total : Int} {scale : Nat} {c : Amount}
    (h : fit? total scale = some c) : ∃ dropped ≤ scale, c.units = rounded total scale dropped := by
  obtain ⟨dropped, hmem, hparts⟩ := List.exists_of_findSome?_eq_some h
  exact ⟨dropped, Nat.le_of_lt_succ (List.mem_range.1 hmem), units_of_ofParts? hparts⟩

/-- No more decimals are dropped than a total needs to fit. -/
theorem exists_fit? {total : Int} {scale enough : Nat} (hscale : scale ≤ scaleLimit)
    (henough : enough ≤ scale)
    (hfits : roundHalfEven total.natAbs (10 ^ enough) < mantissaLimit) :
    ∃ c, fit? total scale = some c ∧ ∃ dropped ≤ enough, c.units = rounded total scale dropped := by
  have hmem : enough ∈ List.range (scale + 1) := List.mem_range.2 (Nat.lt_succ_of_le henough)
  have hsome : ofParts? (total < 0) (roundHalfEven total.natAbs (10 ^ enough)) (scale - enough)
      ≠ none := by
    rw [Ne, ofParts?_eq_none_iff (Nat.le_trans (Nat.sub_le _ _) hscale)]
    exact Nat.not_le_of_lt hfits
  cases hfit : fit? total scale with
  | none =>
      rw [fit?, List.findSome?_eq_none_iff] at hfit
      exact (hsome (hfit enough hmem)).elim
  | some c =>
      obtain ⟨front, dropped, rest, hsplit, hparts, hfront⟩ := List.findSome?_eq_some_iff.1 hfit
      refine ⟨c, rfl, dropped, ?_, units_of_ofParts? hparts⟩
      -- everything behind the first one that fits is greater
      have hordered := List.pairwise_lt_range (n := scale + 1)
      rw [hsplit] at hmem hordered
      rcases List.mem_append.1 hmem with hbefore | hbehind
      · exact (hsome (hfront enough hbefore)).elim
      · rcases List.mem_cons.1 hbehind with rfl | hrest
        · exact Nat.le_refl _
        · exact Nat.le_of_lt (List.rel_of_pairwise_cons (List.pairwise_append.1 hordered).2.1 hrest)

/-- Dropping zeros changes nothing. -/
theorem rounded_of_zeros {total : Int} {scale dropped zeros m : Nat} (hscale : scale ≤ scaleLimit)
    (hzeros : zeros ≤ scale) (hdropped : dropped ≤ zeros) (h : total.natAbs = m * 10 ^ zeros) :
    rounded total scale dropped = total * ((10 ^ (scaleLimit - scale) : Nat) : Int) := by
  have hsplit : total.natAbs = m * 10 ^ (zeros - dropped) * 10 ^ dropped := by
    rw [h, Nat.mul_assoc, ← Nat.pow_add]
    congr 2
    omega
  calc rounded total scale dropped
      = signed (total < 0) (m * 10 ^ (zeros - dropped) * 10 ^ (scaleLimit - (scale - dropped))) := by
        rw [rounded, hsplit, roundHalfEven_mul (ten_pow_pos dropped)]
    _ = signed (total < 0) (total.natAbs * 10 ^ (scaleLimit - scale)) := by
        rw [ten_pow_dropped hscale (Nat.le_trans hdropped hzeros), ← Nat.mul_assoc, ← hsplit]
    _ = total * ((10 ^ (scaleLimit - scale) : Nat) : Int) := (mul_eq_signed _ _).symm

/-- Dropping decimals changes a total by at most half of a whole. -/
theorem rounded_near {total : Int} {scale dropped : Nat} (hscale : scale ≤ scaleLimit)
    (hdropped : dropped ≤ scale) :
    2 * (rounded total scale dropped - total * ((10 ^ (scaleLimit - scale) : Nat) : Int)).natAbs
      ≤ 10 ^ scaleLimit := by
  have hnear := roundHalfEven_near total.natAbs (ten_pow_pos dropped)
  have hcancel : 2 * (((roundHalfEven total.natAbs (10 ^ dropped) * 10 ^ dropped : Nat) : Int)
      - (total.natAbs : Int)).natAbs ≤ 10 ^ dropped := by
    omega
  rw [rounded, mul_eq_signed, natAbs_signed_sub, ten_pow_dropped hscale hdropped, ← Nat.mul_assoc]
  calc 2 * (((roundHalfEven total.natAbs (10 ^ dropped) * 10 ^ dropped
          * 10 ^ (scaleLimit - scale) : Nat) : Int)
        - ((total.natAbs * 10 ^ (scaleLimit - scale) : Nat) : Int)).natAbs
      = 2 * (((roundHalfEven total.natAbs (10 ^ dropped) * 10 ^ dropped : Nat) : Int)
          - (total.natAbs : Int)).natAbs * 10 ^ (scaleLimit - scale) := by
        rw [Int.natCast_mul (_ * _), Int.natCast_mul total.natAbs, ← Int.sub_mul, Int.natAbs_mul,
          Int.natAbs_natCast, Nat.mul_assoc]
    _ ≤ 10 ^ dropped * 10 ^ (scaleLimit - scale) := Nat.mul_le_mul_right _ hcancel
    _ ≤ 10 ^ scale * 10 ^ (scaleLimit - scale) :=
        Nat.mul_le_mul_right _ (Nat.pow_le_pow_right (by decide) hdropped)
    _ = 10 ^ scaleLimit := ten_pow_whole hscale

/-- A total that does not fit without decimals reaches half of a whole below the limit. -/
theorem le_of_fit?_eq_none {total : Int} {scale : Nat} (hscale : scale ≤ scaleLimit)
    (h : fit? total scale = none) :
    2 * mantissaLimit * 10 ^ scaleLimit
      ≤ 2 * (total * ((10 ^ (scaleLimit - scale) : Nat) : Int)).natAbs + 10 ^ scaleLimit := by
  rw [fit?, List.findSome?_eq_none_iff] at h
  have hlarge := (ofParts?_eq_none_iff (Nat.le_trans (Nat.sub_le _ _) hscale)).1
    (h scale (List.mem_range.2 (Nat.lt_succ_self scale)))
  have hnear := (roundHalfEven_near total.natAbs (ten_pow_pos scale)).1
  have hrounded := Nat.mul_le_mul_right (10 ^ scale) hlarge
  have hwhole : 2 * mantissaLimit * 10 ^ scale ≤ 2 * total.natAbs + 10 ^ scale := by
    rw [Nat.mul_assoc]
    omega
  calc 2 * mantissaLimit * 10 ^ scaleLimit
      = 2 * mantissaLimit * 10 ^ scale * 10 ^ (scaleLimit - scale) := by
        rw [Nat.mul_assoc _ (10 ^ scale), ten_pow_whole hscale]
    _ ≤ (2 * total.natAbs + 10 ^ scale) * 10 ^ (scaleLimit - scale) :=
        Nat.mul_le_mul_right _ hwhole
    _ = 2 * (total * ((10 ^ (scaleLimit - scale) : Nat) : Int)).natAbs + 10 ^ scaleLimit := by
        rw [Int.natAbs_mul, Int.natAbs_natCast, Nat.add_mul, ten_pow_whole hscale, Nat.mul_assoc]

/-! ### One addition -/

/-- The total of two amounts in the units of the larger number of decimals. -/
theorem total_mul (a b : Amount) :
    (a.mantissaAt (Nat.max a.scale b.scale) + b.mantissaAt (Nat.max a.scale b.scale))
        * ((10 ^ (scaleLimit - Nat.max a.scale b.scale) : Nat) : Int) = a.units + b.units := by
  have hscale : Nat.max a.scale b.scale ≤ scaleLimit := Nat.max_le.2 ⟨a.scale_le, b.scale_le⟩
  rw [Int.add_mul, mantissaAt_mul a (Nat.le_max_left _ _) hscale,
    mantissaAt_mul b (Nat.le_max_right _ _) hscale]

/-- An addition is exact because a term is zero, or it is the total that has to fit. -/
theorem add?_cases (a b : Amount) :
    (∃ c, a.add? b = some c ∧ c.units = a.units + b.units) ∨
      a.add? b = fit? (a.mantissaAt (Nat.max a.scale b.scale)
        + b.mantissaAt (Nat.max a.scale b.scale)) (Nat.max a.scale b.scale) := by
  rw [add?]
  split
  · next hzero => exact Or.inl ⟨b, rfl, by rw [units_of_mantissa hzero, Int.zero_add]⟩
  · split
    · next hzero => exact Or.inl ⟨a, rfl, by rw [units_of_mantissa hzero, Int.add_zero]⟩
    · exact Or.inr rfl

/-- A sum that an amount can hold is exact. -/
theorem exists_add?_of_holdable {a b : Amount} (h : Holdable (a.units + b.units)) :
    ∃ c, a.add? b = some c ∧ c.units = a.units + b.units := by
  have hscale : Nat.max a.scale b.scale ≤ scaleLimit := Nat.max_le.2 ⟨a.scale_le, b.scale_le⟩
  rcases add?_cases a b with hexact | hfit
  · exact hexact
  · rw [hfit, ← total_mul]
    rw [← total_mul] at h
    obtain ⟨zeros, hzeros, m, hm, hsize⟩ := exists_mantissa_of_holdable hscale h
    have hfits : roundHalfEven
        (a.mantissaAt (Nat.max a.scale b.scale) + b.mantissaAt (Nat.max a.scale b.scale)).natAbs
        (10 ^ zeros) < mantissaLimit := by
      rw [hsize, roundHalfEven_mul (ten_pow_pos zeros)]
      exact hm
    obtain ⟨c, hc, dropped, hdropped, hunits⟩ := exists_fit? hscale hzeros hfits
    exact ⟨c, hc, by rw [hunits, rounded_of_zeros hscale hzeros hdropped hsize]⟩

/-- A sum is off by at most half of a whole. -/
theorem add?_near {a b c : Amount} (h : a.add? b = some c) :
    2 * (c.units - (a.units + b.units)).natAbs ≤ 10 ^ scaleLimit := by
  rcases add?_cases a b with ⟨sum, hadd, hunits⟩ | hfit
  · cases hadd.symm.trans h
    rw [hunits, Int.sub_self]
    exact Nat.zero_le _
  · obtain ⟨dropped, hdropped, hunits⟩ := exists_dropped_of_fit? (hfit.symm.trans h)
    rw [hunits, ← total_mul]
    exact rounded_near (Nat.max_le.2 ⟨a.scale_le, b.scale_le⟩) hdropped

/-- A sum that is refused lies beyond the largest amount, or less than half of a whole below that. -/
theorem le_of_add?_eq_none {a b : Amount} (h : a.add? b = none) :
    2 * mantissaLimit * 10 ^ scaleLimit ≤ 2 * (a.units + b.units).natAbs + 10 ^ scaleLimit := by
  rcases add?_cases a b with ⟨sum, hadd, -⟩ | hfit
  · cases hadd.symm.trans h
  · rw [← total_mul]
    exact le_of_fit?_eq_none (Nat.max_le.2 ⟨a.scale_le, b.scale_le⟩) (hfit.symm.trans h)

/-! ### Lists that add up -/

/-- Every total of a list on top of a first one can be held, from the front on. -/
def AddsUp (total : Int) : List Int → Prop
  | [] => True
  | n :: rest => Holdable (total + n) ∧ AddsUp (total + n) rest

/-- Amounts of at most so many decimals that are not too large together. -/
structure FitTogether (places : Nat) (units : List Int) : Prop where
  places_le : places ≤ scaleLimit
  dvd : ∀ n ∈ units, ((10 ^ (scaleLimit - places) : Nat) : Int) ∣ n
  size_lt : (units.map Int.natAbs).sum < mantissaLimit * 10 ^ (scaleLimit - places)

theorem FitTogether.perm {places : Nat} {units units' : List Int} (h : FitTogether places units)
    (hperm : units.Perm units') : FitTogether places units' where
  places_le := h.places_le
  dvd := fun n hn => h.dvd n (hperm.mem_iff.2 hn)
  size_lt := by
    rw [← (hperm.map Int.natAbs).sum_eq]
    exact h.size_lt

theorem FitTogether.sublist {places : Nat} {units units' : List Int} (h : FitTogether places units)
    (hsub : units'.Sublist units) : FitTogether places units' where
  places_le := h.places_le
  dvd := fun n hn => h.dvd n (hsub.subset hn)
  size_lt := Nat.lt_of_le_of_lt ((hsub.map Int.natAbs).sum_le_sum fun _ _ => Nat.zero_le _) h.size_lt

/-- Amounts that fit together add up, on top of a total that leaves room for them. -/
theorem addsUp_of_room {places : Nat} (hplaces : places ≤ scaleLimit) {total : Int}
    {units : List Int} (htotal : ((10 ^ (scaleLimit - places) : Nat) : Int) ∣ total)
    (hunits : ∀ n ∈ units, ((10 ^ (scaleLimit - places) : Nat) : Int) ∣ n)
    (hroom : total.natAbs + (units.map Int.natAbs).sum
      < mantissaLimit * 10 ^ (scaleLimit - places)) :
    AddsUp total units := by
  induction units generalizing total with
  | nil => exact trivial
  | cons n rest ih =>
      have hdvd := Int.dvd_add htotal (hunits n List.mem_cons_self)
      have hsize := Int.natAbs_add_le total n
      rw [List.map_cons, List.sum_cons] at hroom
      refine ⟨holdable_of_places hplaces hdvd (by omega),
        ih hdvd (fun k hk => hunits k (List.mem_cons_of_mem n hk)) (by omega)⟩

theorem FitTogether.addsUp {places : Nat} {units : List Int} (h : FitTogether places units) :
    AddsUp 0 units :=
  addsUp_of_room h.places_le (Int.dvd_zero _) h.dvd (by simpa using h.size_lt)

end Amount

end LedgerMatch
