import LedgerMatch.Proofs.Amount.Sign
import LedgerMatch.Proofs.Intake.Canonical
import LedgerMatch.Proofs.Staging.MatchedAmounts

/-!
# Buckets tile the numbers from a smallest one on

Buckets begin at the smallest number, each ends where the next one begins, and the last one has no end.
Every finite number from the smallest one on lies in exactly one of them, however coarse the bounds
are rounded. Since intake keeps no amount below zero, and matches from zero on, each amount that it
keeps is looked at in exactly one bucket.
-/

namespace LedgerMatch

-- Powers of whole numbers are the core ones, whatever else is imported.
attribute [local instance (2000)] instPowNat

-- The two large constants are never evaluated.
attribute [local irreducible] Binary64.one Binary64.limit

open Binary64

/-! ### Tilings -/

/-- So many buckets that hold each finite number from a smallest one on exactly once, and no smaller
number. -/
structure Tiles (smallest : Binary64) (count : Nat) (buckets : List AmountBucket) : Prop where
  count : buckets.length = count
  first : ∃ b, buckets.head? = some b ∧ b.lower.eq smallest = true
  adjacent : ∀ i b, buckets[i]? = some b →
    b.upper = (buckets[i + 1]?.map AmountBucket.lower).getD (.infinite false)
  rising : buckets.Pairwise fun b c => b.lower.le c.lower = true
  once : ∀ x : Binary64, x.IsFinite → smallest.le x = true →
    buckets.countP (·.contains x) = 1
  above : ∀ b ∈ buckets, ∀ x : Binary64, x.IsFinite → b.contains x = true → smallest.le x = true

/-- A property that some element of a list has, and no two elements have both, is counted once. -/
theorem countP_eq_one {α : Type} {p : α → Bool} {as : List α}
    (hapart : as.Pairwise fun a b => p a = true → p b = false) (hsome : ∃ a ∈ as, p a = true) :
    as.countP p = 1 := by
  induction as with
  | nil =>
      obtain ⟨a, ha, -⟩ := hsome
      cases ha
  | cons a rest ih =>
      obtain ⟨hfirst, hrest⟩ := List.pairwise_cons.1 hapart
      cases ha : p a with
      | true =>
          have hnone : rest.countP p = 0 := by
            rw [List.countP_eq_zero]
            intro b hb hp
            rw [hfirst b hb ha] at hp
            cases hp
          rw [List.countP_cons_of_pos ha, hnone]
      | false =>
          have hne : ¬ p a = true := by rw [ha]; exact Bool.false_ne_true
          obtain ⟨b, hb, hp⟩ := hsome
          rcases List.mem_cons.1 hb with rfl | hmem
          · exact (hne hp).elim
          · rw [List.countP_cons_of_neg hne]
            exact ih hrest ⟨b, hmem, hp⟩

theorem Binary64.eq_iff {x y : Binary64} {i j : Int} (hx : x.rank? = some i)
    (hy : y.rank? = some j) : x.eq y = true ↔ i = j := by
  simp [Binary64.eq, related, hx, hy]

section

variable {smallest largest : Binary64} {parts : Nat}

theorem amountBuckets_getElem? (i : Nat) :
    (amountBuckets smallest largest parts)[i]?
      = if i < Nat.max parts 1 then
          some (bucketAt smallest (bucketWidth smallest largest (Nat.max parts 1))
            (Nat.max parts 1) i)
        else none := by
  rw [amountBuckets_eq, List.getElem?_map]
  split
  · next h => rw [List.getElem?_range h]; rfl
  · next h => rw [List.getElem?_eq_none (by rw [List.length_range]; omega)]; rfl

/-- A bucket ends where the next one begins, or nowhere if it is the last one. -/
theorem amountBuckets_adjacent {i : Nat} {b : AmountBucket}
    (h : (amountBuckets smallest largest parts)[i]? = some b) :
    b.upper = ((amountBuckets smallest largest parts)[i + 1]?.map AmountBucket.lower).getD
      (.infinite false) := by
  rw [amountBuckets_getElem?] at h ⊢
  split at h
  · next hi =>
      cases h
      rw [bucketAt]
      dsimp only
      split
      · next hlast => rw [if_neg (by omega)]; rfl
      · next hnext => rw [if_pos (by omega)]; rfl
  · cases h

theorem Bucketable.tiles (h : Bucketable smallest largest parts) :
    Tiles smallest (Nat.max parts 1) (amountBuckets smallest largest parts) := by
  obtain ⟨rank, h0, hmono, hrank⟩ := h.exists_ranks
  have hcount : Nat.max parts 1 ≤ wordLimit := Nat.max_le.2 ⟨h.parts_le, by decide⟩
  have hpos : 0 < Nat.max parts 1 := Nat.lt_of_lt_of_le Nat.zero_lt_one (Nat.le_max_right _ _)
  refine ⟨?_, ?_, fun i b => amountBuckets_adjacent, ?_, ?_, ?_⟩
  · rw [amountBuckets_eq, List.length_map, List.length_range]
  · refine ⟨_, by rw [List.head?_eq_getElem?, amountBuckets_getElem?, if_pos hpos], ?_⟩
    exact (eq_iff (hrank 0 (Nat.zero_le _)) h0).2 rfl
  · rw [amountBuckets_eq, List.pairwise_map]
    refine List.Pairwise.imp_of_mem ?_ List.pairwise_lt_range
    intro i j hi hj hij
    rw [List.mem_range] at hi hj
    exact (le_iff (hrank i (by omega)) (hrank j (by omega))).2 (hmono i j (Nat.le_of_lt hij))
  · intro x hx hle
    exact countP_eq_one (h.pairwise.imp fun hapart => hapart x hx) (h.exists_bucket hx hle)
  · intro b hb x hx hcontains
    exact h.le_of_contains hb hx hcontains

end

/-! ### Amounts from zero on -/

namespace Amount

/-- The number staged for an amount from zero on has no sign. -/
theorem isUnsigned_staged {a : Amount} (h : zero ≤ a) : a.staged.IsUnsigned := by
  rw [← staged_plainForm, IsUnsigned, staged, abs_reread, isUnsigned_real_plainForm h]

theorem zero_le_staged {a : Amount} (h : zero ≤ a) : zero.real.le a.staged = true := by
  have hle := Staging.real_le_abs (z := zero) rfl (Tables.isFinite_iff.2 a.staged_isFinite)
  rwa [isUnsigned_staged h] at hle

theorem zero_le_real {a : Amount} (h : zero ≤ a) : zero.real.le a.real = true := by
  by_cases hzero : a.mantissa = 0
  · -- a zero may have a sign
    have hreal : a.real = if a.negative then (Binary64.zero false).negate else .zero false := by
      rw [real, realMagnitude_of_zero hzero]
    have hbound : zero.real = .zero false := realMagnitude_of_zero (m := .zero) rfl
    rw [hreal, hbound]
    cases a.negative <;> rfl
  · have hplain : a.plainForm = a := plainForm_of_isPlain fun _ => hzero
    have hle := Staging.real_le_abs (z := zero) rfl (Tables.isFinite_iff.2 a.real_atMost.isFinite)
    rwa [← hplain, isUnsigned_real_plainForm h, hplain] at hle

end Amount

/-! ### Amounts that are kept -/

/-- Buckets from zero on hold every amount that is not below zero once, as it is and as it is
staged. -/
theorem countP_contains_amount {smallest largest a : Amount} {buckets : Nat}
    (hsmallest : smallest = .zero) (hbuckets : buckets ≤ wordLimit) (h : Amount.zero ≤ a) :
    (amountBuckets smallest.real largest.real buckets).countP (·.contains a.real) = 1 ∧
      (amountBuckets smallest.real largest.real buckets).countP (·.contains a.staged) = 1 := by
  have htiles := (Amount.bucketable smallest largest hbuckets).tiles
  subst hsmallest
  exact ⟨htiles.once _ a.real_atMost.isFinite (Amount.zero_le_real h),
    htiles.once _ a.staged_isFinite (Amount.zero_le_staged h)⟩

/-- Intake matches from zero on up to the largest amount, and keeps no amount below zero. -/
theorem Intake.zero_le_of_read {φ : Type} [FileSystem φ] {fs : φ} {registry : Registry}
    {schedule : Schedule} {hasHeader : Bool} {ledgerRoot statementRoot : Path} {w : Window}
    {kept : Intake}
    (h : (Intake.read fs registry schedule hasHeader ledgerRoot statementRoot w).1 = .ok kept) :
    kept.smallest = .zero ∧ kept.largest = largestAmount kept.entries ∧
      ∀ e ∈ kept.entries, Amount.zero ≤ e.amount := by
  obtain ⟨files, statements, -, -, rfl⟩ := exists_files_of_read h
  refine ⟨rfl, rfl, fun e he => ?_⟩
  obtain ⟨file, -, hcanonical⟩ := canonical_of_mem_ledgerRows (List.mem_of_mem_filter he)
  exact hcanonical.amount_nonneg

/-- Buckets tile the numbers from a smallest one on, whatever the bounds and their number are, as long
as the span is finite. Each amount that intake keeps lies in exactly one of the buckets in which its
records are matched, as it is and as it is staged, also where one more than the largest amount is
rounded to that amount. -/
theorem buckets_tile_amounts :
    (∀ smallest largest parts, Bucketable smallest largest parts →
      Tiles smallest (Nat.max parts 1) (amountBuckets smallest largest parts)) ∧
    ∀ (φ : Type) [FileSystem φ] (fs : φ) registry schedule hasHeader ledgerRoot statementRoot w kept,
      (Intake.read fs registry schedule hasHeader ledgerRoot statementRoot w).1 = .ok kept →
      ∀ e ∈ kept.entries, ∀ buckets ≤ wordLimit,
        (amountBuckets kept.smallest.real kept.largest.real buckets).countP
            (·.contains e.amount.real) = 1 ∧
          (amountBuckets kept.smallest.real kept.largest.real buckets).countP
            (·.contains e.amount.staged) = 1 := by
  refine ⟨fun smallest largest parts h => h.tiles, ?_⟩
  intro φ _ fs registry schedule hasHeader ledgerRoot statementRoot w kept hread e he buckets hbuckets
  obtain ⟨hsmallest, -, hnonneg⟩ := Intake.zero_le_of_read hread
  exact countP_contains_amount hsmallest hbuckets (hnonneg e he)

/-- A ledger file with an amount so large that one more is rounded to it, and a zero with a sign. -/
def hugeLedger : Bytes :=
  Text.encode "TrxID,TransactionTime,Type,Amount\nS,2025-04-11 00:00:00,debit,9007199254740992\n"
    ++ Text.encode "T,2025-04-11 00:00:00,credit,-0.4e-28\n"

def hugePath : Path := ⟨"/in/system/huge.csv"⟩

theorem hugeMantissa_lt : 9007199254740992 < mantissaLimit := by decide

def hugeAmount : Amount :=
  ⟨⟨9007199254740992, 0, hugeMantissa_lt, Magnitude.zero.scale_le⟩, false⟩

def hugeEntries : List LedgerEntry :=
  [⟨"S", .midnight spacedDay, .debit, hugeAmount, hugePath⟩,
    ⟨"T", .midnight spacedDay, .credit,
      ⟨⟨0, scaleLimit, Magnitude.zero.mantissa_lt, Nat.le_refl scaleLimit⟩, true⟩, hugePath⟩]

theorem hugeAmounts_tiled :
    Bucketable Amount.zero.real hugeAmount.real 4 ∧
      Tiles Amount.zero.real 4 (amountBuckets Amount.zero.real hugeAmount.real 4) ∧
      hugeAmount.real + .ofNat 1 = hugeAmount.real ∧
      ∃ kept,
        (Intake.read (FlatFiles.ofList [(hugePath, hugeLedger)]) .standard .reversed true
          ⟨"/in/system"⟩ ⟨"/in/bank"⟩ (spacedWindow [])).1 = .ok kept ∧
        kept.entries = hugeEntries ∧ kept.smallest = .zero ∧ kept.largest = hugeAmount ∧
        4 ≤ wordLimit ∧
        ∀ e ∈ hugeEntries,
          (amountBuckets Amount.zero.real hugeAmount.real 4).countP (·.contains e.amount.real) = 1 ∧
          (amountBuckets Amount.zero.real hugeAmount.real 4).countP
            (·.contains e.amount.staged) = 1 := by
  obtain ⟨htiles, hkept⟩ := buckets_tile_amounts
  have hbounds := Amount.bucketable .zero hugeAmount (by decide : 4 ≤ wordLimit)
  have hfiles : ledgerFiles (FlatFiles.ofList [(hugePath, hugeLedger)]) ⟨"/in/system"⟩
      = .ok [hugePath] := by
    decide +kernel
  have hstatements : statementFiles (FlatFiles.ofList [(hugePath, hugeLedger)]) ⟨"/in/bank"⟩
      (spacedWindow []) = .ok [] := by
    decide +kernel
  have hread := Intake.read_eq hfiles hstatements .standard .reversed true
  have hentries : (Intake.inWindow (spacedWindow [])
      (ledgerRows (FlatFiles.ofList [(hugePath, hugeLedger)]) true [hugePath])
      (statementRows (FlatFiles.ofList [(hugePath, hugeLedger)]) .standard true [])).entries
        = hugeEntries := by
    decide +kernel
  obtain ⟨hsmallest, hlargest, -⟩ := Intake.zero_le_of_read hread
  rw [hentries, show largestAmount hugeEntries = hugeAmount by decide +kernel] at hlargest
  refine ⟨hbounds, htiles _ _ _ hbounds, by decide +kernel, _, hread, hentries, hsmallest, hlargest,
    by decide, fun e he => ?_⟩
  have hamount := hkept _ _ _ _ _ _ _ _ _ hread e (hentries ▸ he) 4 (by decide)
  rwa [hsmallest, hlargest] at hamount

end LedgerMatch
