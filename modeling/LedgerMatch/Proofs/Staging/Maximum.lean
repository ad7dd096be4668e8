import LedgerMatch.Proofs.Staging.Counts
import Mathlib.Data.List.Perm.Subperm

/-!
# Matching as much as possible

Matching from an amount on below which no ledger row lies leaves no two open rows that share a key,
whatever was staged and matched before. Each group then has one side without open rows. So no way to
pair the rows makes more pairs, and matching again adds none.
-/

namespace LedgerMatch

namespace Tables

variable {t : Tables}

/-! ### Pairs by group -/

/-- The group of a pair, by the key of its ledger row. -/
def groupOf? (t : Tables) (p : Pair) : Option MatchKey := (t.joined? p).map fun row => row.1.key

/-- The number of pairs in a group. -/
def pairCount (t : Tables) (k : MatchKey) : Nat := t.pairs.countP fun p => t.groupOf? p == some k

/-- The number of ledger rows in scope in a group. -/
def ledgerCount (t : Tables) (k : MatchKey) : Nat := t.scopedLedger.countP fun l => l.key == k

/-- The number of statement rows in scope in a group. -/
def statementCount (t : Tables) (k : MatchKey) : Nat :=
  t.scopedStatements.countP fun s => s.key == k

/-- Pairs fall into the groups of the joined rows. -/
theorem Sound.map_groupOf?_perm (h : t.Sound) :
    (t.pairs.map t.groupOf?).Perm (t.joinedRows.map fun row => some row.1.key) := by
  have hgroups : (t.joinedRows.map fun row => pairOf row.1 row.2).map t.groupOf?
      = t.joinedRows.map fun row => some row.1.key := by
    rw [List.map_map]
    refine List.map_congr_left fun row hrow => ?_
    obtain ⟨hl, hr, -⟩ := h.mem_joinedRows.1 hrow
    show t.groupOf? (pairOf row.1 row.2) = some row.1.key
    rw [groupOf?, h.joined?_pairOf hl hr, Option.map_some]
  rw [← hgroups]
  exact (h.map_pairOf_joinedRows.map t.groupOf?).symm

theorem Sound.pairCount_eq (h : t.Sound) (k : MatchKey) :
    t.pairCount k = t.joinedRows.countP fun row => row.1.key == k := by
  have hcount := h.map_groupOf?_perm.countP_eq (· == some k)
  rw [List.countP_map, List.countP_map] at hcount
  exact hcount

/-- A ledger row of a group is in one of its pairs or open. -/
theorem Sound.ledgerCount_eq (h : t.Sound) (k : MatchKey) :
    t.ledgerCount k = t.pairCount k + t.openLedger.countP fun l => l.key == k := by
  rw [ledgerCount, ← h.ledger_perm.countP_eq, List.countP_append, List.countP_map, h.pairCount_eq]
  rfl

/-- A statement row of a group is in one of its pairs or open. -/
theorem Sound.statementCount_eq (h : t.Sound) (k : MatchKey) :
    t.statementCount k = t.pairCount k + t.openStatements.countP fun s => s.key == k := by
  have hkeys : t.joinedRows.countP (fun row => row.1.key == k)
      = t.joinedRows.countP fun row => row.2.key == k := by
    refine List.countP_congr fun row hrow => ?_
    rw [h.key_eq_of_mem_joinedRows hrow]
  rw [statementCount, ← h.statements_perm.countP_eq, List.countP_append, List.countP_map,
    h.pairCount_eq, hkeys]
  rfl

/-! ### Tables without open rows that could be matched -/

/-- No open ledger row shares a key with an open statement row. -/
def Exhausted (t : Tables) : Prop := ∀ l ∈ t.openLedger, ∀ s ∈ t.openStatements, l.key ≠ s.key

/-- One side of a group is used up. -/
theorem Sound.pairCount_of_exhausted (h : t.Sound) (hdone : t.Exhausted) (k : MatchKey) :
    t.pairCount k = min (t.ledgerCount k) (t.statementCount k) := by
  have hledger := h.ledgerCount_eq k
  have hstatements := h.statementCount_eq k
  rcases Nat.eq_zero_or_pos (t.openLedger.countP fun l => l.key == k) with hzero | hpos
  · omega
  · obtain ⟨l, hl, hlk⟩ := List.countP_pos_iff.1 hpos
    have hzero : (t.openStatements.countP fun s => s.key == k) = 0 := by
      rw [List.countP_eq_zero]
      intro s hs hsk
      exact hdone l hl s hs ((eq_of_beq hlk).trans (eq_of_beq hsk).symm)
    omega

/-- Pairs of rows in scope that share a key, no row in two of them. -/
structure IsAssignment (t : Tables) (ps : List Pair) : Prop where
  apart : ps.Pairwise Pair.Apart
  joins : ∀ p ∈ ps, t.Joins p

theorem Sound.isAssignment_pairs (h : t.Sound) : t.IsAssignment t.pairs :=
  ⟨h.pairs_apart, h.pairs_join⟩

/-- The same rows with other pairs. -/
theorem Sound.withAssignment (h : t.Sound) {ps : List Pair} (hps : t.IsAssignment ps) :
    Sound { t with pairs := ps } :=
  { h with pairs_apart := hps.apart, pairs_join := hps.joins }

/-- No assignment has more pairs. -/
theorem Sound.assignment_length_le (h : t.Sound) (hdone : t.Exhausted) {ps : List Pair}
    (hps : t.IsAssignment ps) : ps.length ≤ t.pairs.length := by
  have hsub : (ps.map t.groupOf?).Subperm (t.pairs.map t.groupOf?) := by
    rw [List.subperm_ext_iff]
    intro group hgroup
    obtain ⟨p, hp, rfl⟩ := List.mem_map.1 hgroup
    obtain ⟨l, hl, s, hs, -, rfl⟩ := hps.joins p hp
    have hkey : t.groupOf? (pairOf l s) = some l.key := by
      rw [groupOf?, h.joined?_pairOf hl hs, Option.map_some]
    -- in each group, the assignment is bounded by both sides and the pairs reach one of them
    have hother := h.withAssignment hps
    have hledger : t.ledgerCount l.key = _ := hother.ledgerCount_eq l.key
    have hstatements : t.statementCount l.key = _ := hother.statementCount_eq l.key
    have hpairs := h.pairCount_of_exhausted hdone l.key
    have hcount : (ps.map t.groupOf?).count (some l.key)
        = pairCount { t with pairs := ps } l.key := by
      rw [List.count_eq_countP, List.countP_map]
      rfl
    have hcount' : (t.pairs.map t.groupOf?).count (some l.key) = t.pairCount l.key := by
      rw [List.count_eq_countP, List.countP_map]
      rfl
    rw [hkey, hcount, hcount']
    omega
  have hlength := hsub.length_le
  rw [List.length_map, List.length_map] at hlength
  exact hlength

theorem Sound.bucketPairs_of_exhausted (h : t.Sound) (hdone : t.Exhausted) (b : AmountBucket) :
    t.bucketPairs b = [] := by
  refine List.eq_nil_iff_forall_not_mem.2 fun p hp => ?_
  obtain ⟨l, hl, s, hs, hkey, -⟩ := h.exists_rows_of_mem_bucketPairs hp
  exact hdone l hl s hs hkey

/-- Matching again changes nothing. -/
theorem Sound.matchAmounts_of_exhausted (h : t.Sound) (hdone : t.Exhausted)
    (smallest largest : Amount) (buckets : Nat) :
    t.matchAmounts smallest largest buckets = (.ok (), t) := by
  rw [matchAmounts]
  induction amountBuckets smallest.real largest.real buckets with
  | nil => rfl
  | cons b rest ih =>
      have hstep : t.matchBucket b = .ok t := by
        rw [h.matchBucket_eq, h.bucketPairs_of_exhausted hdone, List.append_nil]
      rw [sequence_cons_ok hstep, ih]

/-! ### Matching from the smallest amount on -/

/-- Once everything from an amount on is matched, an open ledger row from there on shares its key
with no open statement row. -/
theorem Sound.key_ne_of_open_append (h : t.Sound) {smallest : Binary64} {added : List Pair}
    (hadded : added.Perm (t.pairsFrom smallest)) {l : LedgerRow} {s : StatementRow}
    (hl : l ∈ openLedger { t with pairs := t.pairs ++ added })
    (hs : s ∈ openStatements { t with pairs := t.pairs ++ added })
    (hsmallest : smallest.le l.real = true) : l.key ≠ s.key := by
  intro hkey
  obtain ⟨hlscoped, hlopen⟩ := mem_openLedger.1 hl
  obtain ⟨hsscoped, hsopen⟩ := mem_openStatements.1 hs
  have hl' : l ∈ t.openLedger :=
    mem_openLedger.2 ⟨hlscoped, fun p hp => hlopen p (List.mem_append_left _ hp)⟩
  have hs' : s ∈ t.openStatements :=
    mem_openStatements.2 ⟨hsscoped, fun p hp => hsopen p (List.mem_append_left _ hp)⟩
  have hmatched : ∀ p, MatchedAt t.openLedger t.openStatements l.key p → p ∈ t.pairs ++ added :=
    fun p hp => List.mem_append_right _
      (hadded.mem_iff.2 (h.mem_pairsFrom.2 ⟨l.key, hsmallest, hp⟩))
  obtain ⟨i, hi⟩ := List.mem_iff_getElem?.1 (mem_ledgerGroup.2 ⟨hl', rfl⟩)
  obtain ⟨j, hj⟩ := List.mem_iff_getElem?.1 (mem_statementGroup.2 ⟨hs', hkey.symm⟩)
  -- the row that comes first in its side of the group has a partner in the other side
  rcases Nat.le_total i j with hij | hji
  · have hlength := (List.getElem?_eq_some_iff.1 hj).1
    have hr := List.getElem?_eq_getElem (Nat.lt_of_le_of_lt hij hlength)
    exact hlopen _ (hmatched _ ⟨i, l, _, hi, hr, rfl⟩) rfl
  · have hlength := (List.getElem?_eq_some_iff.1 hi).1
    have hr := List.getElem?_eq_getElem (Nat.lt_of_le_of_lt hji hlength)
    exact hsopen _ (hmatched _ ⟨j, _, s, hr, hj, rfl⟩) rfl

theorem Sound.exhausted_append (h : t.Sound) {smallest : Binary64}
    (hsmallest : ∀ l ∈ t.scopedLedger, smallest.le l.real = true) {added : List Pair}
    (hadded : added.Perm (t.pairsFrom smallest)) :
    Exhausted { t with pairs := t.pairs ++ added } :=
  fun l hl _ hs => h.key_ne_of_open_append hadded hl hs (hsmallest l (mem_openLedger.1 hl).1)

/-- Matching from an amount on below which no ledger row lies leaves nothing to match. -/
theorem Sound.exhausted_matchAmounts (h : t.Sound) (smallest largest : Amount) {buckets : Nat}
    (hbuckets : buckets ≤ wordLimit)
    (hsmallest : ∀ l ∈ t.scopedLedger, smallest.real.le l.real = true) :
    ∃ u : Tables, t.matchAmounts smallest largest buckets = (.ok (), u) ∧ u.Sound ∧ u.Exhausted := by
  obtain ⟨added, hperm, hmatch⟩ := h.matchAmounts_eq smallest largest hbuckets
  have hsound := (matchAmounts_sound h smallest largest buckets).1
  rw [hmatch] at hsound
  exact ⟨_, hmatch, hsound, h.exhausted_append hsmallest hperm⟩

/-- As many pairs in each group as its smaller side has rows, no assignment with more pairs, and
nothing that could still be matched. -/
structure Maximum (t : Tables) : Prop where
  groups : ∀ k, t.pairCount k = min (t.ledgerCount k) (t.statementCount k)
  assignment : t.IsAssignment t.pairs
  most : ∀ ps, t.IsAssignment ps → ps.length ≤ t.pairs.length
  again : ∀ smallest largest buckets,
    t.matchAmounts smallest largest buckets = (.ok (), t)

theorem Sound.maximum (h : t.Sound) (hdone : t.Exhausted) : t.Maximum where
  groups := h.pairCount_of_exhausted hdone
  assignment := h.isAssignment_pairs
  most := fun _ => h.assignment_length_le hdone
  again := h.matchAmounts_of_exhausted hdone

end Tables

namespace Staging

/-- After an area is prepared, let it serve any requests that do not replace what it has. A matching
from an amount on below which no ledger row in scope lies then makes the pairs a maximum. -/
theorem maximum_after_requests (s : Staging) (w : Window) {requests : List StagingRequest}
    (hkeeps : ∀ request ∈ requests, ¬ request.Replaces) (smallest largest : Amount) {buckets : Nat}
    (hbuckets : buckets < wordLimit)
    (hsmallest : ∀ t, ((s.prepare w).serveAll requests).tables = some t →
      ∀ l ∈ t.scopedLedger, smallest.real.le l.real = true) :
    ∃ u : Tables,
      ((s.prepare w).serveAll requests).matchAmounts smallest largest buckets = (.ok (), ⟨some u⟩) ∧
        u.Maximum := by
  obtain ⟨hsound, hext⟩ := (prepare_sound s w).serveAll hkeeps
  obtain ⟨t, ht, -⟩ := hext (.fresh w) rfl
  obtain ⟨u, hmatch, husound, hdone⟩ :=
    (hsound t ht).exhausted_matchAmounts smallest largest (Nat.le_of_lt hbuckets) (hsmallest t ht)
  refine ⟨u, ?_, husound.maximum hdone⟩
  rw [matchAmounts, update, ht]
  dsimp only
  rw [hmatch]

/-- The requests that lead to the small area with rows left over. -/
def leftoverRequests : List StagingRequest :=
  [.importEntries [twinEntry] 1, .importLines [twinLine] 1, .matchAmounts .zero .zero 1,
    .importEntries [twinEntry] 2, .importLines [twinLine, twinLine] 1]

theorem serveAll_leftoverRequests : (empty.prepare twinWindow).serveAll leftoverRequests = leftovers :=
  rfl

theorem leftovers_maximum_after_requests :
    (∀ request ∈ leftoverRequests, ¬ request.Replaces) ∧ 3 < wordLimit ∧
      (∀ t, ((empty.prepare twinWindow).serveAll leftoverRequests).tables = some t →
        ∀ l ∈ t.scopedLedger, Amount.zero.real.le l.real = true) ∧
      ∃ u : Tables,
        ((empty.prepare twinWindow).serveAll leftoverRequests).matchAmounts .zero twinEntry.amount 3
          = (.ok (), ⟨some u⟩) ∧ u.Maximum := by
  have hkeeps : ∀ request ∈ leftoverRequests, ¬ request.Replaces := by
    simp [leftoverRequests, StagingRequest.Replaces]
  have hsmallest : ∀ t, ((empty.prepare twinWindow).serveAll leftoverRequests).tables = some t →
      ∀ l ∈ t.scopedLedger, Amount.zero.real.le l.real = true := by
    intro t ht
    rw [serveAll_leftoverRequests, leftovers_tables] at ht
    rw [← Option.some.inj ht]
    decide +kernel
  exact ⟨hkeeps, by decide, hsmallest,
    maximum_after_requests empty twinWindow hkeeps .zero twinEntry.amount (by decide) hsmallest⟩

end Staging

end LedgerMatch
