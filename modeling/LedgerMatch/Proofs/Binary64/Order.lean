import LedgerMatch.Binary64.Arithmetic
import LedgerMatch.Proofs.Binary64.Rounding

/-!
# Order of double precision numbers

Numbers are compared by their ranks. Addition and multiplication round the rank of the exact result,
so that they keep the order of ranks. A bound on the size of numbers carries over from the operands
of an operation to its result, which is finite as long as the bound is.
-/

namespace LedgerMatch.Binary64

-- Powers of whole numbers are the core ones, whatever else is imported.
attribute [local instance (2000)] instPowNat

-- The two large constants are never evaluated.
attribute [local irreducible] one limit

/-! ### Ranks -/

theorem rank?_finite (s : Bool) (n : Nat) (h : Representable n) :
    (finite s n h).rank? = some (signed s n) := by
  cases s <;> rfl

theorem le_iff {x y : Binary64} {i j : Int} (hx : x.rank? = some i) (hy : y.rank? = some j) :
    x.le y = true ↔ i ≤ j := by
  simp [le, related, hx, hy]

theorem natAbs_signed (s : Bool) (n : Nat) : (signed s n).natAbs = n := by
  cases s <;> simp [signed]

theorem lt_iff {x y : Binary64} {i j : Int} (hx : x.rank? = some i) (hy : y.rank? = some j) :
    x.lt y = true ↔ i < j := by
  simp [lt, related, hx, hy]

/-- The number nearest to a quotient has the rounded quotient as its rank, up to the limit. -/
theorem rank?_ofSteps (s : Bool) (num den : Nat) :
    (ofSteps s num den).rank? = some (signed s (min (roundSteps num den) limit)) := by
  rw [ofSteps]
  split
  · next h => rw [rank?_finite, Nat.min_eq_left (Nat.le_of_lt h)]
  · next h =>
      rw [Nat.min_eq_right (by omega)]
      cases s <;> rfl

/-- The rank of the number nearest to a signed count of steps. -/
def nearestRank (i : Int) : Int := signed (i < 0) (min (roundSteps i.natAbs 1) limit)

theorem nearestRank_zero : nearestRank 0 = 0 := by
  simp [nearestRank, signed, roundSteps_zero]

theorem nearestRank_le_limit (i : Int) : nearestRank i ≤ limit := by
  rw [nearestRank, signed]
  split <;> omega

theorem nearestRank_mono {i j : Int} (h : i ≤ j) : nearestRank i ≤ nearestRank j := by
  unfold nearestRank signed
  by_cases hi : i < 0
  · by_cases hj : j < 0
    · -- below zero the order of the sizes is turned round
      have hmono := roundSteps_mono 1 (show j.natAbs ≤ i.natAbs by omega)
      simp only [hi, hj, decide_true, if_true]
      omega
    · simp only [hi, hj, decide_true, decide_false, if_true, Bool.false_eq_true, if_false]
      omega
  · have hj : ¬ j < 0 := by omega
    have hmono := roundSteps_mono 1 (show i.natAbs ≤ j.natAbs by omega)
    simp only [hi, hj, decide_false, Bool.false_eq_true, if_false]
    omega

/-- A signed count that a number holds is its own nearest rank. -/
theorem nearestRank_signed {s : Bool} {n : Nat} (h : Representable n) :
    nearestRank (signed s n) = signed s n := by
  have hround : roundSteps n 1 = n := by
    simpa using roundSteps_of_representable h (by decide : 0 < 1)
  have hmin : min n limit = n := Nat.min_eq_left (Nat.le_of_lt h.1)
  cases s with
  | false =>
      have hpos : ¬ (n : Int) < 0 := by omega
      simp [nearestRank, signed, hround, hmin, hpos]
  | true =>
      by_cases h0 : n = 0
      · simp [nearestRank, signed, h0, roundSteps_zero]
      · simp [nearestRank, signed, hround, hmin, h0]

theorem rank?_ofSigned (z : Bool) (i : Int) : (ofSigned z i).rank? = some (nearestRank i) := by
  rw [ofSigned]
  split
  · next h =>
      rw [h, nearestRank_zero, zero, rank?_finite]
      cases z <;> rfl
  · rw [rank?_ofSteps]
    rfl

/-- A sum of finite numbers rounds the sum of their ranks. -/
theorem rank?_add {s t : Bool} {m n : Nat} (hm : Representable m) (hn : Representable n) :
    (finite s m hm + finite t n hn).rank? = some (nearestRank (signed s m + signed t n)) := by
  show (ofSigned (s && t) (signed s m + signed t n)).rank? = _
  rw [rank?_ofSigned]

theorem rank?_sub {s t : Bool} {m n : Nat} (hm : Representable m) (hn : Representable n) :
    (finite s m hm - finite t n hn).rank? = some (nearestRank (signed s m - signed t n)) := by
  have h : signed s m + signed (!t) n = signed s m - signed t n := by
    cases t with
    | false => exact Int.sub_eq_add_neg.symm
    | true => exact (Int.sub_neg _ _).symm
  show (ofSigned (s && !t) (signed s m + signed (!t) n)).rank? = _
  rw [rank?_ofSigned, h]

theorem rank?_mul {s t : Bool} {m n : Nat} (hm : Representable m) (hn : Representable n) :
    (finite s m hm * finite t n hn).rank?
      = some (signed (s != t) (min (roundSteps (m * n) one) limit)) := by
  show (ofSteps (s != t) (m * n) one).rank? = _
  rw [rank?_ofSteps]

/-- Neither infinite nor `nan`. -/
def IsFinite (x : Binary64) : Prop := ∃ s n, ∃ h : Representable n, x = finite s n h

/-- The rank of a finite number. -/
theorem IsFinite.exists_rank {x : Binary64} (hx : x.IsFinite) :
    ∃ r, x.rank? = some r ∧ r < limit := by
  obtain ⟨s, n, hn, rfl⟩ := hx
  refine ⟨signed s n, rank?_finite s n hn, ?_⟩
  have hlt := hn.1
  have hsize := natAbs_signed s n
  omega

/-! ### Bounds -/

/-- A finite number whose size is at most a power of two. -/
def AtMost (k : Nat) : Binary64 → Prop
  | finite _ n _ => n ≤ 2 ^ k * one
  | _ => False

theorem AtMost.mono {k l : Nat} {x : Binary64} (h : AtMost k x) (hkl : k ≤ l) : AtMost l x := by
  cases x with
  | finite s n hn =>
      exact Nat.le_trans h (Nat.mul_le_mul_right _ (Nat.pow_le_pow_right (by decide) hkl))
  | infinite s => exact h
  | nan => exact h

theorem AtMost.exists_finite {k : Nat} {x : Binary64} (h : AtMost k x) :
    ∃ s n, ∃ hn : Representable n, x = finite s n hn ∧ n ≤ 2 ^ k * one := by
  cases x with
  | finite s n hn => exact ⟨s, n, hn, rfl, h⟩
  | infinite s => exact h.elim
  | nan => exact h.elim

theorem AtMost.isFinite {k : Nat} {x : Binary64} (h : AtMost k x) : x.IsFinite := by
  obtain ⟨s, n, hn, hx, -⟩ := h.exists_finite
  exact ⟨s, n, hn, hx⟩

theorem one_pos : 0 < one := by
  rw [one]
  exact Nat.two_pow_pos 1074

theorem two_pow_mul_one (k : Nat) : 2 ^ k * one = 2 ^ (k + 1074) := by
  rw [one]
  rw [Nat.pow_add]

theorem representable_bound {k : Nat} (hk : k < 1024) : Representable (2 ^ k * one) := by
  rw [two_pow_mul_one]
  exact representable_two_pow (by simp only [limitDigits]; omega)

theorem atMost_ofSteps {k num den : Nat} (s : Bool) (hk : k < 1024) (hd : 0 < den)
    (h : num ≤ 2 ^ k * one * den) : AtMost k (ofSteps s num den) := by
  have hr := representable_bound hk
  have hle : roundSteps num den ≤ 2 ^ k * one := roundSteps_le hr hd h
  rw [ofSteps]
  rw [dif_pos (Nat.lt_of_le_of_lt hle hr.1)]
  exact hle

theorem atMost_zero (k : Nat) (s : Bool) : AtMost k (zero s) := Nat.zero_le _

theorem atMost_ofSigned {k : Nat} (z : Bool) {i : Int} (hk : k < 1024)
    (h : i.natAbs ≤ 2 ^ k * one) : AtMost k (ofSigned z i) := by
  rw [ofSigned]
  split
  · exact atMost_zero k z
  · exact atMost_ofSteps _ hk (by decide) (by omega)

theorem atMost_ofNat {k n : Nat} (hk : k < 1024) (h : n ≤ 2 ^ k) : AtMost k (ofNat n) :=
  atMost_ofSteps _ hk (by decide) (by simpa using Nat.mul_le_mul_right one h)

theorem AtMost.add {k : Nat} {x y : Binary64} (hk : k + 1 < 1024) (hx : AtMost k x)
    (hy : AtMost k y) : AtMost (k + 1) (x + y) := by
  obtain ⟨s, m, hm, rfl, hxm⟩ := hx.exists_finite
  obtain ⟨t, n, hn, rfl, hyn⟩ := hy.exists_finite
  apply atMost_ofSigned _ hk
  have hs := natAbs_signed s m
  have ht := natAbs_signed t n
  rw [Nat.pow_succ, Nat.mul_right_comm]
  omega

theorem AtMost.negate {k : Nat} {x : Binary64} (hx : AtMost k x) : AtMost k x.negate := by
  obtain ⟨s, m, hm, rfl, hxm⟩ := hx.exists_finite
  exact hxm

theorem AtMost.sub {k : Nat} {x y : Binary64} (hk : k + 1 < 1024) (hx : AtMost k x)
    (hy : AtMost k y) : AtMost (k + 1) (x - y) :=
  hx.add hk hy.negate

theorem AtMost.mul {k l : Nat} {x y : Binary64} (hk : k + l < 1024) (hx : AtMost k x)
    (hy : AtMost l y) : AtMost (k + l) (x * y) := by
  obtain ⟨s, m, hm, rfl, hxm⟩ := hx.exists_finite
  obtain ⟨t, n, hn, rfl, hyn⟩ := hy.exists_finite
  apply atMost_ofSteps _ hk Binary64.one_pos
  calc m * n ≤ 2 ^ k * one * (2 ^ l * one) := Nat.mul_le_mul hxm hyn
    _ = 2 ^ (k + l) * one * one := by
      rw [Nat.pow_add]
      ac_rfl

/-- Division by a number of at least one keeps a bound. -/
theorem AtMost.div {k : Nat} {x : Binary64} {t : Bool} {n : Nat} (hk : k < 1024) (hx : AtMost k x)
    (hn : Representable n) (hone : one ≤ n) : AtMost k (x / finite t n hn) := by
  obtain ⟨s, m, hm, rfl, hxm⟩ := hx.exists_finite
  have hpos : 0 < n := Nat.lt_of_lt_of_le Binary64.one_pos hone
  show AtMost k (if n = 0 then _ else ofSteps (s != t) (m * one) n)
  rw [if_neg (by omega)]
  exact atMost_ofSteps _ hk hpos (Nat.mul_le_mul hxm hone)

theorem AtMost.max {k : Nat} {x y : Binary64} (hx : AtMost k x) (hy : AtMost k y) :
    AtMost k (x.max y) := by
  rw [Binary64.max]
  split
  · exact hy
  · split
    · exact hx
    · split
      · exact hy
      · exact hx

theorem AtMost.round {k : Nat} {x : Binary64} (hk : k < 1024) (hx : AtMost k x) :
    AtMost k x.round := by
  obtain ⟨s, m, hm, rfl, hxm⟩ := hx.exists_finite
  have hpos := Binary64.one_pos
  have hle : roundHalfUp m one ≤ 2 ^ k := by
    have hexpand : (2 ^ k).succ * (2 * one) = 2 * (2 ^ k * one) + 2 * one := by
      rw [Nat.succ_mul, Nat.mul_left_comm]
    apply Nat.le_of_lt_succ
    rw [roundHalfUp, Nat.div_lt_iff_lt_mul (by omega), hexpand]
    omega
  exact atMost_ofSteps _ hk (by decide) (by simpa using Nat.mul_le_mul_right one hle)

/-- A positive whole number is rounded to a finite number of at least one. -/
theorem ofNat_of_pos {k n : Nat} (hk : k < 1024) (h : n ≤ 2 ^ k) (hpos : 0 < n) :
    ∃ m, ∃ hm : Representable m, ofNat n = finite false m hm ∧ one ≤ m ∧ m ≤ 2 ^ k * one := by
  have hbound := representable_bound hk
  have hone : Representable one := by
    simpa using representable_bound (show 0 < 1024 by decide)
  have hle : roundSteps (n * one) 1 ≤ 2 ^ k * one :=
    roundSteps_le hbound (by decide) (by simpa using Nat.mul_le_mul_right one h)
  have hge : one ≤ roundSteps (n * one) 1 :=
    le_roundSteps hone (by decide) (by simpa using Nat.mul_le_mul_right one hpos)
  refine ⟨roundSteps (n * one) 1,
    roundSteps_representable (Nat.lt_of_le_of_lt hle hbound.1), ?_, hge, hle⟩
  exact dif_pos (Nat.lt_of_le_of_lt hle hbound.1)

end LedgerMatch.Binary64
