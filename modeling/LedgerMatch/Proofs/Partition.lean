import LedgerMatch.Partition
import LedgerMatch.Proofs.Binary64.Order

/-!
# Partitions cover everything once

The chunks of a list, put behind each other, are the list again. The buckets of amounts are
disjoint, and every finite number from the smallest amount on lies in one of them: their lower
bounds begin at the smallest amount and never decrease, since the width is not negative and rounding
keeps order.

The number of buckets is bounded by a machine word, which a double precision number can hold.
-/

namespace LedgerMatch

-- Powers of whole numbers are the core ones, whatever else is imported.
attribute [local instance (2000)] instPowNat

-- The two large constants are never evaluated.
attribute [local irreducible] Binary64.one Binary64.limit

/-! ### Chunks -/

section

-- So is the zero that a sum begins with.
attribute [local instance (2000)] Zero.ofOfNat0

theorem partSizes_sum (length parts : Nat) (h : 0 < parts) :
    (partSizes length parts).sum = length := by
  rw [partSizes]
  split
  · simp
  · have hmod := Nat.mod_lt length h
    have hdiv := Nat.div_add_mod length parts
    have hsub : (parts - length % parts) * (length / parts)
        = parts * (length / parts) - length % parts * (length / parts) := Nat.sub_mul _ _ _
    have hle : length % parts * (length / parts) ≤ parts * (length / parts) :=
      Nat.mul_le_mul_right _ (Nat.le_of_lt hmod)
    rw [List.sum_append, List.sum_replicate_nat, List.sum_replicate_nat, Nat.mul_add, hsub]
    omega

/-- Slices of consecutive ranges follow each other in the list. -/
theorem flatten_slice_rangesOfSizes {α : Type} (xs : List α) (start : Nat) (sizes : List Nat) :
    ((rangesOfSizes start sizes).map (slice xs)).flatten = (xs.drop start).take sizes.sum := by
  induction sizes generalizing start with
  | nil => simp [rangesOfSizes]
  | cons size sizes ih =>
      rw [rangesOfSizes, List.map_cons, List.flatten_cons, ih, List.sum_cons, List.take_add,
        List.drop_drop]
      simp only [slice, Nat.add_sub_cancel_left]

theorem flatten_slice_indexRanges {α : Type} (xs : List α) (parts : Nat) :
    ((indexRanges xs.length parts).map (slice xs)).flatten = xs := by
  have hpos : 0 < Nat.max parts 1 := Nat.lt_of_lt_of_le Nat.zero_lt_one (Nat.le_max_right _ _)
  rw [indexRanges, flatten_slice_rangesOfSizes, partSizes_sum _ _ hpos, List.drop_zero,
    List.take_length]

end

/-! ### Bounds of buckets -/

/-- The number of buckets and the number of chunks are machine words. -/
def wordLimit : Nat := 2 ^ (64 : Nat)

section

open Binary64

/-- The rank of the product of a width and the number of a bucket. -/
def offsetRank (width i : Nat) : Nat :=
  min (roundSteps (width * roundSteps (i * one) 1) one) limit

/-- The rank of the lower bound of a bucket. -/
def boundRank (smallest : Int) (width i : Nat) : Int :=
  if offsetRank width i < limit then nearestRank (smallest + offsetRank width i) else limit

theorem offsetRank_mono (width : Nat) {i j : Nat} (h : i ≤ j) :
    offsetRank width i ≤ offsetRank width j := by
  have hfactor := roundSteps_mono 1 (Nat.mul_le_mul_right one h)
  have hproduct := roundSteps_mono one (Nat.mul_le_mul_left width hfactor)
  unfold offsetRank
  omega

theorem boundRank_mono (smallest : Int) (width : Nat) {i j : Nat} (h : i ≤ j) :
    boundRank smallest width i ≤ boundRank smallest width j := by
  have hoffset := offsetRank_mono width h
  unfold boundRank
  split
  · split
    · exact nearestRank_mono (by omega)
    · exact nearestRank_le_limit _
  · exact Int.le_of_eq (by rw [if_neg (by omega)])

theorem boundRank_zero {s : Bool} {n : Nat} (width : Nat) (hn : Representable n) :
    boundRank (signed s n) width 0 = signed s n := by
  have h0 : offsetRank width 0 = 0 := by
    simp [offsetRank, roundSteps_zero]
  rw [boundRank, h0, if_pos limit_pos]
  simpa using nearestRank_signed hn

/-- A width is finite and not negative. -/
def IsWidth (x : Binary64) : Prop :=
  ∃ s n, ∃ h : Representable n, x = finite s n h ∧ 0 ≤ signed s n

theorem eq_zero_of_signed_nonneg {n : Nat} (h : 0 ≤ signed true n) : n = 0 := by
  simp only [signed, if_true] at h
  omega

theorem rank?_bucketBound {s t : Bool} {n w i : Nat} (hn : Representable n) (hw : Representable w)
    (hwidth : 0 ≤ signed t w) (hi : i ≤ wordLimit) :
    (bucketBound (finite s n hn) (finite t w hw) i).rank?
      = some (boundRank (signed s n) w i) := by
  -- the number of the bucket is a finite number without a sign
  have hbound : roundSteps (i * one) 1 ≤ 2 ^ (64 : Nat) * one :=
    roundSteps_le (representable_bound (by decide)) (by decide)
      (by rw [Nat.mul_one]; exact Nat.mul_le_mul_right one hi)
  have hlimit : roundSteps (i * one) 1 < limit :=
    Nat.lt_of_le_of_lt hbound (representable_bound (by decide)).1
  have hofNat : ofNat i = finite false (roundSteps (i * one) 1)
      (roundSteps_representable hlimit) := dif_pos hlimit
  -- the offset is an infinite number or one without a sign, unless it is zero
  have hoffset : (finite t w hw * ofNat i).rank? = some ((offsetRank w i : Nat) : Int) := by
    rw [hofNat, rank?_mul]
    cases t with
    | false => rfl
    | true => simp [eq_zero_of_signed_nonneg hwidth, offsetRank, roundSteps_zero, signed]
  rw [bucketBound, boundRank]
  cases hx : finite t w hw * ofNat i with
  | nan => rw [hx] at hoffset; cases hoffset
  | infinite u =>
      rw [hx] at hoffset
      have hpos := limit_pos
      cases u with
      | true =>
          have : -(limit : Int) = (offsetRank w i : Nat) := Option.some.inj hoffset
          omega
      | false =>
          have : (limit : Int) = (offsetRank w i : Nat) := Option.some.inj hoffset
          rw [if_neg (by omega)]
          rfl
  | finite u m hm =>
      rw [hx, rank?_finite] at hoffset
      have hrank : signed u m = (offsetRank w i : Nat) := Option.some.inj hoffset
      have hlt : offsetRank w i < limit := by
        have := hm.1
        have hsize := natAbs_signed u m
        rw [hrank] at hsize
        omega
      rw [rank?_add, hrank, if_pos hlt]

/-- The span from a smallest number to one past a larger one is not negative. -/
theorem span_nonneg {s t : Bool} {m n : Nat} {hm : Representable m} {hn : Representable n}
    {u : Bool} {d : Nat} {hd : Representable d}
    (h : Binary64.max (finite t n hn) (finite s m hm) + ofNat 1 - finite s m hm = finite u d hd) :
    0 ≤ signed u d := by
  obtain ⟨o, ho, hone, -, -⟩ :=
    ofNat_of_pos (by decide : 0 < 1024) (by decide : 1 ≤ 2 ^ 0) (by decide : 0 < 1)
  -- the larger number lies at or above the smallest one
  obtain ⟨v, e, he, hmax, hge⟩ : ∃ v e, ∃ he : Representable e,
      Binary64.max (finite t n hn) (finite s m hm) = finite v e he ∧
        signed s m ≤ signed v e := by
    simp only [Binary64.max, reduceCtorEq, beq_iff_eq, if_false]
    split
    · exact ⟨s, m, hm, rfl, Int.le_refl _⟩
    · next hlt =>
        rw [lt_iff (rank?_finite t n hn) (rank?_finite s m hm)] at hlt
        exact ⟨t, n, hn, rfl, by omega⟩
  rw [hmax, hone] at h
  -- so does the next number, and the difference to it is rounded to no less than zero
  cases hsum : finite v e he + finite false o ho with
  | nan => rw [hsum] at h; cases h
  | infinite z => rw [hsum] at h; cases h
  | finite z f hf =>
      have hsumRank := rank?_add (s := v) (t := false) he ho
      rw [hsum, rank?_finite] at hsumRank
      have hnext : signed z f = nearestRank (signed v e + signed false o) :=
        Option.some.inj hsumRank
      have hmono : nearestRank (signed s m) ≤ nearestRank (signed v e + signed false o) := by
        apply nearestRank_mono
        simp only [signed, Bool.false_eq_true, if_false]
        simp only [signed] at hge
        omega
      rw [nearestRank_signed hm, ← hnext] at hmono
      have hdiff := rank?_sub (s := z) (t := s) hf hm
      rw [hsum] at h
      rw [h, rank?_finite] at hdiff
      rw [Option.some.inj hdiff, ← nearestRank_zero]
      exact nearestRank_mono (by omega)

theorem bucketWidth_isWidth {smallest largest : Binary64} {parts : Nat}
    (hs : smallest.IsFinite) (hl : largest.IsFinite)
    (hspan : (Binary64.max largest smallest + ofNat 1 - smallest).IsFinite)
    (hpos : 0 < parts) (hparts : parts ≤ wordLimit) :
    IsWidth (bucketWidth smallest largest parts) := by
  obtain ⟨s, m, hm, rfl⟩ := hs
  obtain ⟨t, n, hn, rfl⟩ := hl
  obtain ⟨u, d, hd, hdiff⟩ := hspan
  have hnonneg := span_nonneg hdiff
  obtain ⟨p, hp, hofNat, hone, -⟩ := ofNat_of_pos (by decide : 64 < 1024) hparts hpos
  have hp0 : 0 < p := Nat.lt_of_lt_of_le Binary64.one_pos hone
  have hle : roundSteps (d * one) p ≤ d := roundSteps_le hd hp0 (Nat.mul_le_mul_left d hone)
  have hlt : roundSteps (d * one) p < limit := Nat.lt_of_le_of_lt hle hd.1
  have hquotient : bucketWidth (finite s m hm) (finite t n hn) parts
      = finite (u != false) (roundSteps (d * one) p) (roundSteps_representable hlt) := by
    rw [bucketWidth, hdiff, hofNat]
    show (if p = 0 then _ else ofSteps (u != false) (d * one) p) = _
    rw [if_neg (by omega)]
    exact dif_pos hlt
  refine ⟨_, _, _, hquotient, ?_⟩
  cases u with
  | false => simp [signed]
  | true => simp [eq_zero_of_signed_nonneg hnonneg, roundSteps_zero, signed]

/-! ### Buckets -/

/-- What makes numbers the bounds of buckets: both ends and the span between them are finite, and
the number of buckets is a machine word. -/
structure Bucketable (smallest largest : Binary64) (parts : Nat) : Prop where
  smallest_finite : smallest.IsFinite
  largest_finite : largest.IsFinite
  span_finite : (Binary64.max largest smallest + ofNat 1 - smallest).IsFinite
  parts_le : parts ≤ wordLimit

variable {smallest largest : Binary64} {parts : Nat}

/-- The lower bounds of buckets have ranks that begin at the smallest number and never decrease. -/
theorem Bucketable.exists_ranks (h : Bucketable smallest largest parts) :
    ∃ rank : Nat → Int, smallest.rank? = some (rank 0) ∧ (∀ i j, i ≤ j → rank i ≤ rank j) ∧
      ∀ i ≤ wordLimit,
        (bucketBound smallest (bucketWidth smallest largest (Nat.max parts 1)) i).rank?
          = some (rank i) := by
  have hpos : 0 < Nat.max parts 1 := Nat.lt_of_lt_of_le Nat.zero_lt_one (Nat.le_max_right _ _)
  have hparts : Nat.max parts 1 ≤ wordLimit := Nat.max_le.2 ⟨h.parts_le, by decide⟩
  obtain ⟨t, w, hw, hwidth, hnonneg⟩ :=
    bucketWidth_isWidth h.smallest_finite h.largest_finite h.span_finite hpos hparts
  obtain ⟨s, n, hn, hfinite⟩ := h.smallest_finite
  rw [hwidth, hfinite]
  refine ⟨boundRank (signed s n) w, ?_, fun i j hij => boundRank_mono _ _ hij,
    fun i hi => rank?_bucketBound hn hw hnonneg hi⟩
  rw [boundRank_zero w hn]
  exact rank?_finite s n hn

/-- The bucket with a number, out of so many. -/
def bucketAt (smallest width : Binary64) (count i : Nat) : AmountBucket :=
  ⟨bucketBound smallest width i,
    if i + 1 = count then .infinite false else bucketBound smallest width (i + 1)⟩

theorem amountBuckets_eq :
    amountBuckets smallest largest parts = (List.range (Nat.max parts 1)).map
      (bucketAt smallest (bucketWidth smallest largest (Nat.max parts 1)) (Nat.max parts 1)) :=
  rfl

/-- A bucket holds the numbers from its rank on, below the rank of the next one, if there is one. -/
theorem bucketAt_contains_iff {width x : Binary64} {count i : Nat} {rank : Nat → Int} {r : Int}
    (hrank : ∀ i ≤ wordLimit, (bucketBound smallest width i).rank? = some (rank i))
    (hcount : count ≤ wordLimit) (hi : i < count) (hx : x.rank? = some r) (hr : r < limit) :
    (bucketAt smallest width count i).contains x = true ↔
      rank i ≤ r ∧ (i + 1 = count ∨ r < rank (i + 1)) := by
  have hlower := le_iff (hrank i (by omega)) hx
  by_cases hlast : i + 1 = count
  · have hupper : x.lt (infinite false) = true ↔ r < limit := lt_iff hx rfl
    simp [AmountBucket.contains, bucketAt, hlast, hlower, hupper, hr]
  · have hupper := lt_iff hx (hrank (i + 1) (by omega))
    simp [AmountBucket.contains, bucketAt, hlast, hlower, hupper]

/-- Ranks that begin at or below a number and never decrease reach it in one of so many steps. -/
theorem exists_last_le {rank : Nat → Int} {r : Int} (count : Nat) (hpos : 0 < count)
    (h0 : rank 0 ≤ r) : ∃ i < count, rank i ≤ r ∧ (i + 1 = count ∨ r < rank (i + 1)) := by
  induction count with
  | zero => omega
  | succ n ih =>
      by_cases hn : n = 0
      · exact ⟨0, by omega, h0, Or.inl (by omega)⟩
      · obtain ⟨i, hi, hle, hnext⟩ := ih (by omega)
        by_cases hlt : r < rank (i + 1)
        · exact ⟨i, by omega, hle, Or.inr hlt⟩
        · have hlast : i + 1 = n := by omega
          exact ⟨n, by omega, by rw [← hlast]; omega, Or.inl rfl⟩

/-- No finite number lies in two buckets. -/
theorem Bucketable.pairwise (h : Bucketable smallest largest parts) :
    (amountBuckets smallest largest parts).Pairwise fun b c =>
      ∀ x : Binary64, x.IsFinite → b.contains x = true → c.contains x = false := by
  obtain ⟨rank, -, hmono, hrank⟩ := h.exists_ranks
  have hcount : Nat.max parts 1 ≤ wordLimit := Nat.max_le.2 ⟨h.parts_le, by decide⟩
  rw [amountBuckets_eq, List.pairwise_map]
  refine List.Pairwise.imp_of_mem ?_ List.pairwise_lt_range
  intro i j hi hj hij x hx hcontains
  rw [List.mem_range] at hi hj
  obtain ⟨r, hr, hlt⟩ := hx.exists_rank
  rw [bucketAt_contains_iff hrank hcount hi hr hlt] at hcontains
  rw [← Bool.not_eq_true, bucketAt_contains_iff hrank hcount hj hr hlt]
  have hstep := hmono (i + 1) j hij
  omega

/-- Every finite number from the smallest one on lies in a bucket. -/
theorem Bucketable.exists_bucket (h : Bucketable smallest largest parts) {x : Binary64}
    (hx : x.IsFinite) (hle : smallest.le x = true) :
    ∃ b ∈ amountBuckets smallest largest parts, b.contains x = true := by
  obtain ⟨rank, h0, -, hrank⟩ := h.exists_ranks
  have hcount : Nat.max parts 1 ≤ wordLimit := Nat.max_le.2 ⟨h.parts_le, by decide⟩
  obtain ⟨r, hr, hlt⟩ := hx.exists_rank
  rw [le_iff h0 hr] at hle
  obtain ⟨i, hi, hcontains⟩ := exists_last_le (Nat.max parts 1)
    (Nat.lt_of_lt_of_le Nat.zero_lt_one (Nat.le_max_right _ _)) hle
  refine ⟨_, List.mem_map.2 ⟨i, List.mem_range.2 hi, rfl⟩, ?_⟩
  exact (bucketAt_contains_iff hrank hcount hi hr hlt).2 hcontains

/-- A finite number in a bucket is no smaller than the smallest one. -/
theorem Bucketable.le_of_contains (h : Bucketable smallest largest parts) {b : AmountBucket}
    (hb : b ∈ amountBuckets smallest largest parts) {x : Binary64} (hx : x.IsFinite)
    (hcontains : b.contains x = true) : smallest.le x = true := by
  obtain ⟨rank, h0, hmono, hrank⟩ := h.exists_ranks
  have hcount : Nat.max parts 1 ≤ wordLimit := Nat.max_le.2 ⟨h.parts_le, by decide⟩
  obtain ⟨r, hr, hlt⟩ := hx.exists_rank
  obtain ⟨i, hi, rfl⟩ := List.mem_map.1 hb
  rw [List.mem_range] at hi
  have hle := ((bucketAt_contains_iff hrank hcount hi hr hlt).1 hcontains).1
  rw [le_iff h0 hr]
  exact Int.le_trans (hmono 0 i (Nat.zero_le i)) hle

end

end LedgerMatch
