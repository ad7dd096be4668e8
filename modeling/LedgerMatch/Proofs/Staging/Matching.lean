import LedgerMatch.Proofs.Amount.Size
import LedgerMatch.Proofs.Partition
import LedgerMatch.Proofs.Staging.Tables

/-!
# Matching in buckets

Matching a bucket always succeeds and adds the pairs of its open rows. Rows that share an amount
lie in one bucket, and a bucket leaves the rows of all others as they are. So the buckets together
add the pairs that one bucket for all amounts from the smallest one on would add.
-/

namespace LedgerMatch

namespace Tables

variable {t : Tables}

/-! ### Adding pairs -/

/-- A pair of existing rows, neither of which has a pair. -/
structure Addable (t : Tables) (p : Pair) : Prop where
  ledger_mem : ∃ l ∈ t.ledger, l.number = p.ledger
  statement_mem : ∃ s ∈ t.statements, s.number = p.statement
  ledger_open : ∀ q ∈ t.pairs, q.ledger ≠ p.ledger
  statement_open : ∀ q ∈ t.pairs, q.statement ≠ p.statement

theorem hasLedgerPair_eq_false {n : Nat} :
    t.hasLedgerPair n = false ↔ ∀ p ∈ t.pairs, p.ledger ≠ n := by
  simp [hasLedgerPair]

theorem hasStatementPair_eq_false {n : Nat} :
    t.hasStatementPair n = false ↔ ∀ p ∈ t.pairs, p.statement ≠ n := by
  simp [hasStatementPair]

theorem mem_openLedger {l : LedgerRow} :
    l ∈ t.openLedger ↔ l ∈ t.scopedLedger ∧ ∀ p ∈ t.pairs, p.ledger ≠ l.number := by
  rw [openLedger, List.mem_filter, Bool.not_eq_true', hasLedgerPair_eq_false]

theorem mem_openStatements {s : StatementRow} :
    s ∈ t.openStatements ↔ s ∈ t.scopedStatements ∧ ∀ p ∈ t.pairs, p.statement ≠ s.number := by
  rw [openStatements, List.mem_filter, Bool.not_eq_true', hasStatementPair_eq_false]

theorem addPair_of_addable {p : Pair} (h : t.Addable p) :
    t.addPair p = .ok { t with pairs := t.pairs ++ [p] } := by
  have hledger : (t.ledger.any fun l => l.number == p.ledger) = true := by
    simpa using h.ledger_mem
  have hstatement : (t.statements.any fun s => s.number == p.statement) = true := by
    simpa using h.statement_mem
  have hlopen : t.hasLedgerPair p.ledger = false := hasLedgerPair_eq_false.2 h.ledger_open
  have hsopen : t.hasStatementPair p.statement = false :=
    hasStatementPair_eq_false.2 h.statement_open
  simp [addPair, hledger, hstatement, hlopen, hsopen]

/-- Pairs that can be added and share no row can be added one after the other. -/
theorem foldlM_addPair {ps : List Pair} (hapart : ps.Pairwise Pair.Apart)
    (h : ∀ p ∈ ps, t.Addable p) :
    ps.foldlM addPair t = .ok { t with pairs := t.pairs ++ ps } := by
  induction ps generalizing t with
  | nil => simp [pure, Except.pure]
  | cons p rest ih =>
      obtain ⟨hfront, hrest⟩ := List.pairwise_cons.1 hapart
      have hlater : ∀ q ∈ rest, Addable { t with pairs := t.pairs ++ [p] } q := by
        intro q hq
        have hq' := h q (List.mem_cons_of_mem _ hq)
        refine { hq' with ledger_open := ?_, statement_open := ?_ }
        · intro r hr
          rcases List.mem_append.1 hr with hold | hnew
          · exact hq'.ledger_open r hold
          · rw [List.mem_singleton.1 hnew]
            exact (hfront q hq).1
        · intro r hr
          rcases List.mem_append.1 hr with hold | hnew
          · exact hq'.statement_open r hold
          · rw [List.mem_singleton.1 hnew]
            exact (hfront q hq).2
      rw [List.foldlM_cons, addPair_of_addable (h p List.mem_cons_self)]
      show rest.foldlM addPair _ = _
      rw [ih hrest hlater, List.append_assoc, List.singleton_append]

/-! ### One bucket -/

/-- The pairs of the open rows in a bucket. -/
def bucketPairs (t : Tables) (b : AmountBucket) : List Pair :=
  matchRows (t.openLedger.filter fun r => b.contains r.real)
    (t.openStatements.filter fun r => b.contains r.size)

theorem Sound.nodup_openLedger (h : t.Sound) (P : LedgerRow → Bool) :
    ((t.openLedger.filter P).map LedgerRow.number).Nodup :=
  h.nodup_ledger.sublist
    ((List.filter_sublist.trans (List.filter_sublist.trans List.filter_sublist)).map _)

theorem Sound.nodup_openStatements (h : t.Sound) (P : StatementRow → Bool) :
    ((t.openStatements.filter P).map StatementRow.number).Nodup :=
  h.nodup_statements.sublist
    ((List.filter_sublist.trans (List.filter_sublist.trans List.filter_sublist)).map _)

theorem Sound.pairwise_bucketPairs (h : t.Sound) (b : AmountBucket) :
    (t.bucketPairs b).Pairwise Pair.Apart :=
  pairwise_matchRows (h.nodup_openLedger _) (h.nodup_openStatements _)

/-- A pair of a bucket joins open rows that lie in it. -/
theorem Sound.exists_rows_of_mem_bucketPairs (h : t.Sound) {b : AmountBucket} {p : Pair}
    (hp : p ∈ t.bucketPairs b) :
    ∃ l ∈ t.openLedger, ∃ s ∈ t.openStatements, l.key = s.key ∧ p = pairOf l s ∧
      b.contains l.real = true ∧ b.contains s.size = true := by
  have hmatch := (mem_matchRows (h.nodup_openLedger _) (h.nodup_openStatements _)).1 hp
  obtain ⟨l, hl, s, hs, hkey, rfl⟩ := hmatch.exists_rows
  rw [List.mem_filter] at hl hs
  exact ⟨l, hl.1, s, hs.1, hkey, rfl, hl.2, hs.2⟩

theorem Sound.addable (h : t.Sound) {b : AmountBucket} {p : Pair} (hp : p ∈ t.bucketPairs b) :
    t.Addable p := by
  obtain ⟨l, hl, s, hs, -, rfl, -, -⟩ := h.exists_rows_of_mem_bucketPairs hp
  exact
    { ledger_mem := ⟨l, mem_ledger_of_mem_openLedger hl, rfl⟩
      statement_mem := ⟨s, mem_statements_of_mem_openStatements hs, rfl⟩
      ledger_open := (mem_openLedger.1 hl).2
      statement_open := (mem_openStatements.1 hs).2 }

/-- Matching a bucket adds its pairs. -/
theorem Sound.matchBucket_eq (h : t.Sound) (b : AmountBucket) :
    t.matchBucket b = .ok { t with pairs := t.pairs ++ t.bucketPairs b } :=
  foldlM_addPair (h.pairwise_bucketPairs b) fun _ hp => h.addable hp

theorem extends_append_pairs (t : Tables) (ps : List Pair) :
    t.Extends { t with pairs := t.pairs ++ ps } :=
  ⟨rfl, List.prefix_refl _, List.prefix_refl _, List.prefix_append _ _⟩

theorem matchBucket_sound {u : Tables} {b : AmountBucket} (h : t.Sound)
    (hmatch : t.matchBucket b = .ok u) : u.Sound ∧ t.Extends u := by
  rw [h.matchBucket_eq] at hmatch
  cases hmatch
  have hext := extends_append_pairs t (t.bucketPairs b)
  refine ⟨{ h with pairs_apart := ?_, pairs_join := ?_ }, hext⟩
  · refine List.pairwise_append.2 ⟨h.pairs_apart, h.pairwise_bucketPairs b, ?_⟩
    intro q hq p hp
    exact ⟨(h.addable hp).ledger_open q hq, (h.addable hp).statement_open q hq⟩
  · intro p hp
    rcases List.mem_append.1 hp with hold | hnew
    · exact hext.joins (h.pairs_join p hold)
    · obtain ⟨l, hl, s, hs, hkey, rfl, -, -⟩ := h.exists_rows_of_mem_bucketPairs hnew
      exact hext.joins ⟨l, (mem_openLedger.1 hl).1, s, (mem_openStatements.1 hs).1, hkey, rfl⟩

theorem matchAmounts_sound (h : t.Sound) (smallest largest : Amount) (buckets : Nat) :
    (t.matchAmounts smallest largest buckets).2.Sound ∧
      t.Extends (t.matchAmounts smallest largest buckets).2 :=
  sequence_sound (fun _ b _ => matchBucket_sound (b := b)) _ h

/-! ### Several buckets -/

/-- The tables after a bucket. -/
def afterBucket (t : Tables) (b : AmountBucket) : Tables :=
  { t with pairs := t.pairs ++ t.bucketPairs b }

theorem Sound.afterBucket (h : t.Sound) (b : AmountBucket) : (t.afterBucket b).Sound :=
  (matchBucket_sound h (h.matchBucket_eq b)).1

/-- A bucket leaves the open ledger rows of a bucket apart from it as they are. -/
theorem Sound.openLedger_afterBucket (h : t.Sound) {b c : AmountBucket}
    (hapart : ∀ x : Binary64, x.IsFinite → b.contains x = true → c.contains x = false) :
    ((t.afterBucket b).openLedger.filter fun r => c.contains r.real)
      = t.openLedger.filter fun r => c.contains r.real := by
  show ((t.scopedLedger.filter _).filter _) = (t.scopedLedger.filter _).filter _
  rw [List.filter_filter, List.filter_filter]
  refine List.filter_congr fun r hr => ?_
  by_cases hc : c.contains r.real = true
  · have hnone : ((t.bucketPairs b).any fun p => p.ledger == r.number) = false := by
      rw [List.any_eq_false]
      intro p hp hnumber
      obtain ⟨l, hl, s, -, -, rfl, hcontains, -⟩ := h.exists_rows_of_mem_bucketPairs hp
      have hmem := (List.mem_filter.1 hr).1
      have hlmem := mem_ledger_of_mem_openLedger hl
      -- the ledger row of the pair is the one in question, which lies in the other bucket
      have hsame : l = r :=
        List.inj_on_of_nodup_map h.nodup_ledger hlmem hmem (eq_of_beq hnumber)
      rw [hsame] at hcontains
      rw [hapart r.real (h.ledger_finite hmem) hcontains] at hc
      cases hc
    simp [hasLedgerPair, Tables.afterBucket, hnone]
  · simp [hc]

theorem Sound.openStatements_afterBucket (h : t.Sound) {b c : AmountBucket}
    (hapart : ∀ x : Binary64, x.IsFinite → b.contains x = true → c.contains x = false) :
    ((t.afterBucket b).openStatements.filter fun r => c.contains r.size)
      = t.openStatements.filter fun r => c.contains r.size := by
  show ((t.scopedStatements.filter _).filter _) = (t.scopedStatements.filter _).filter _
  rw [List.filter_filter, List.filter_filter]
  refine List.filter_congr fun r hr => ?_
  by_cases hc : c.contains r.size = true
  · have hnone : ((t.bucketPairs b).any fun p => p.statement == r.number) = false := by
      rw [List.any_eq_false]
      intro p hp hnumber
      obtain ⟨l, -, s, hs, -, rfl, -, hcontains⟩ := h.exists_rows_of_mem_bucketPairs hp
      have hmem := (List.mem_filter.1 hr).1
      have hsmem := mem_statements_of_mem_openStatements hs
      have hsame : s = r :=
        List.inj_on_of_nodup_map h.nodup_statements hsmem hmem (eq_of_beq hnumber)
      rw [hsame] at hcontains
      rw [hapart r.size (h.size_finite hmem) hcontains] at hc
      cases hc
    simp [hasStatementPair, Tables.afterBucket, hnone]
  · simp [hc]

theorem Sound.bucketPairs_afterBucket (h : t.Sound) {b c : AmountBucket}
    (hapart : ∀ x : Binary64, x.IsFinite → b.contains x = true → c.contains x = false) :
    (t.afterBucket b).bucketPairs c = t.bucketPairs c := by
  rw [bucketPairs, h.openLedger_afterBucket hapart, h.openStatements_afterBucket hapart]
  rfl

/-- Buckets apart from each other add the pairs that each of them would add alone. -/
theorem Sound.sequence_matchBucket (h : t.Sound) {bs : List AmountBucket}
    (hapart : bs.Pairwise fun b c =>
      ∀ x : Binary64, x.IsFinite → b.contains x = true → c.contains x = false) :
    t.sequence matchBucket bs = (.ok (), { t with pairs := t.pairs ++ bs.flatMap t.bucketPairs }) := by
  induction bs generalizing t with
  | nil => simp [sequence]
  | cons b rest ih =>
      obtain ⟨hfront, hrest⟩ := List.pairwise_cons.1 hapart
      rw [sequence_cons_ok (h.matchBucket_eq b)]
      show (t.afterBucket b).sequence matchBucket rest = _
      have hsame : rest.flatMap (t.afterBucket b).bucketPairs = rest.flatMap t.bucketPairs :=
        List.flatMap_congr fun c hc => h.bucketPairs_afterBucket (hfront c hc)
      rw [ih (h.afterBucket b) hrest, hsame, List.flatMap_cons, ← List.append_assoc]
      rfl

/-- Buckets of any kind, also ones that overlap, add nothing but pairs. -/
theorem Sound.exists_sequence_matchBucket (h : t.Sound) (bs : List AmountBucket) :
    ∃ added, t.sequence matchBucket bs = (.ok (), { t with pairs := t.pairs ++ added }) := by
  induction bs generalizing t with
  | nil => exact ⟨[], by simp [sequence]⟩
  | cons b rest ih =>
      obtain ⟨added, hrest⟩ := ih (h.afterBucket b)
      refine ⟨t.bucketPairs b ++ added, ?_⟩
      rw [sequence_cons_ok (h.matchBucket_eq b), ← List.append_assoc]
      exact hrest

/-! ### All amounts -/

/-- The pairs of matching all open rows from a smallest amount on at once. -/
def pairsFrom (t : Tables) (smallest : Binary64) : List Pair :=
  matchRows (t.openLedger.filter fun r => smallest.le r.real)
    (t.openStatements.filter fun r => smallest.le r.size)

/-- A pair is one of a bucket if it is one of the open rows and its amount lies in the bucket. -/
theorem Sound.mem_bucketPairs (h : t.Sound) {b : AmountBucket} {p : Pair} :
    p ∈ t.bucketPairs b ↔ ∃ k, b.contains k.amount = true ∧ MatchedAt t.openLedger t.openStatements k p := by
  rw [bucketPairs, mem_matchRows (h.nodup_openLedger _) (h.nodup_openStatements _)]
  exact isMatch_filter b.contains

theorem Sound.mem_pairsFrom (h : t.Sound) {smallest : Binary64} {p : Pair} :
    p ∈ t.pairsFrom smallest ↔
      ∃ k, smallest.le k.amount = true ∧ MatchedAt t.openLedger t.openStatements k p := by
  rw [pairsFrom, mem_matchRows (h.nodup_openLedger _) (h.nodup_openStatements _)]
  exact isMatch_filter smallest.le

/-- The amount at which rows are matched is finite. -/
theorem Sound.finite_of_matchedAt (h : t.Sound) {k : MatchKey} {p : Pair}
    (hp : MatchedAt t.openLedger t.openStatements k p) : k.amount.IsFinite := by
  obtain ⟨i, l, s, hl, -, -⟩ := hp
  obtain ⟨hmem, rfl⟩ := mem_ledgerGroup.1 (List.mem_of_getElem? hl)
  exact h.ledger_finite (mem_ledger_of_mem_openLedger hmem)

/-- The buckets together add the pairs of matching everything at once. -/
theorem Sound.flatMap_bucketPairs_perm (h : t.Sound) {smallest largest : Binary64} {parts : Nat}
    (hb : Bucketable smallest largest parts) :
    ((amountBuckets smallest largest parts).flatMap t.bucketPairs).Perm (t.pairsFrom smallest) := by
  have hnodup : ((amountBuckets smallest largest parts).flatMap t.bucketPairs).Nodup := by
    have hsound := (sequence_sound (fun _ b _ => matchBucket_sound (b := b))
      (amountBuckets smallest largest parts) h).1
    rw [h.sequence_matchBucket hb.pairwise] at hsound
    exact (List.pairwise_append.1 hsound.pairs_apart).2.1.imp
      fun hapart heq => hapart.1 (by rw [heq])
  have hnodup' : (t.pairsFrom smallest).Nodup :=
    (pairwise_matchRows (h.nodup_openLedger _) (h.nodup_openStatements _)).imp
      fun hapart heq => hapart.1 (by rw [heq])
  refine (List.perm_ext_iff_of_nodup hnodup hnodup').2 fun p => ?_
  rw [List.mem_flatMap, h.mem_pairsFrom]
  constructor
  · rintro ⟨b, hbmem, hp⟩
    obtain ⟨k, hk, hmatch⟩ := h.mem_bucketPairs.1 hp
    exact ⟨k, hb.le_of_contains hbmem (h.finite_of_matchedAt hmatch) hk, hmatch⟩
  · rintro ⟨k, hk, hmatch⟩
    obtain ⟨b, hbmem, hcontains⟩ := hb.exists_bucket (h.finite_of_matchedAt hmatch) hk
    exact ⟨b, hbmem, h.mem_bucketPairs.2 ⟨k, hcontains, hmatch⟩⟩

end Tables

/-! ### Amounts as bounds -/

-- The two large constants are never evaluated.
attribute [local irreducible] Binary64.one Binary64.limit

/-- Amounts are the bounds of any machine word of buckets. -/
theorem Amount.bucketable (smallest largest : Amount) {parts : Nat} (hparts : parts ≤ wordLimit) :
    Bucketable smallest.real largest.real parts where
  smallest_finite := smallest.real_atMost.isFinite
  largest_finite := largest.real_atMost.isFinite
  span_finite := by
    have hmax := largest.real_atMost.max smallest.real_atMost
    have hone : Binary64.AtMost 191 (Binary64.ofNat 1) :=
      (Binary64.atMost_ofNat (by decide : 0 < 1024) (by decide)).mono (by decide)
    have hsum := hmax.add (by decide) hone
    exact (hsum.sub (by decide) (smallest.real_atMost.mono (by decide))).isFinite
  parts_le := hparts

namespace Tables

variable {t : Tables}

/-- Matching from a smallest amount on succeeds, and adds the pairs of matching everything at once,
whatever the largest amount and the number of buckets are. -/
theorem Sound.matchAmounts_eq (h : t.Sound) (smallest largest : Amount) {buckets : Nat}
    (hbuckets : buckets ≤ wordLimit) :
    ∃ added, added.Perm (t.pairsFrom smallest.real) ∧
      t.matchAmounts smallest largest buckets = (.ok (), { t with pairs := t.pairs ++ added }) :=
  have hb := Amount.bucketable smallest largest hbuckets
  ⟨_, h.flatMap_bucketPairs_perm hb, h.sequence_matchBucket hb.pairwise⟩

end Tables

end LedgerMatch
