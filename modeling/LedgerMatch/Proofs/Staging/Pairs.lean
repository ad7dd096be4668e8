import LedgerMatch.Proofs.Staging.Requests

/-!
# Pairs over time

In every state that a staging area can reach, pairs join rows that agree, and no row has two pairs.
Matching adds the pairs of one global matching of the open rows, whatever the buckets are.

Rows are matched by the numbers they hold. These are read from decimal digits in extended precision
and need not be the numbers of the amounts: two rows whose amounts have different numbers can hold
the same one.
-/

namespace LedgerMatch

namespace Staging

/-! ### A small area -/

def twinDay : Date := ⟨2025, 3, 6, by decide⟩

def twinWindow : Window := ⟨twinDay, twinDay, ["BCA"]⟩

def twinEntry : LedgerEntry :=
  ⟨"S", .midnight twinDay, .credit, ⟨⟨34945851331871, 8, by decide, by decide⟩, false⟩, ⟨"s.csv"⟩⟩

def twinLine : StatementLine :=
  ⟨"B", twinDay, .debit, "BCA", ⟨⟨34945851331871003, 11, by decide, by decide⟩, true⟩, ⟨"b.csv"⟩⟩

/-- An area with an entry and a line whose amounts are close, but not the same. -/
def twins : Staging :=
  ((empty.serve (.prepare twinWindow)).serve (.importEntries [twinEntry] 1)).serve
    (.importLines [twinLine] 1)

def twinTables : Tables where
  scope := .ofWindow twinWindow
  ledger := [.ofEntry 1 twinEntry]
  statements := [.ofLine 1 twinLine]

theorem twins_reachable : twins.Reachable :=
  .serve _ (.serve _ (.serve _ .empty))

theorem twins_tables : twins.tables = some twinTables := by decide +kernel

/-- The small area after its rows are matched. -/
def matchedTwins : Staging := twins.serve (.matchAmounts .zero .zero 1)

def matchedTables : Tables := { twinTables with pairs := [⟨1, 1⟩] }

theorem matchedTwins_tables : matchedTwins.tables = some matchedTables := by
  have htwins : twins = ⟨some twinTables⟩ := by rw [← twins_tables]
  rw [matchedTwins, htwins]
  decide +kernel

/-! ### What matching adds -/

/-- Matching adds the pairs that come of going from group to group through all open rows from the
smallest amount on. They depend neither on the largest amount nor on the number of buckets. -/
theorem Reachable.matchAmounts_adds_groups {s : Staging} {t : Tables} (h : s.Reachable)
    (ht : s.tables = some t) (smallest largest : Amount) {buckets : Nat}
    (hbuckets : buckets < wordLimit) :
    ∃ added : List Pair,
      s.matchAmounts smallest largest buckets
        = (.ok (), ⟨some { t with pairs := t.pairs ++ added }⟩) ∧
      added.Perm (matchGroups LedgerRow.key StatementRow.key
        (t.openLedger.filter fun r => smallest.real.le r.real)
        (t.openStatements.filter fun r => smallest.real.le r.size)) := by
  have hsound := h.sound t ht
  obtain ⟨added, hperm, hmatch⟩ :=
    hsound.matchAmounts_eq smallest largest (Nat.le_of_lt hbuckets)
  refine ⟨added, ?_, hperm.trans ?_⟩
  · rw [matchAmounts, update, ht]
    dsimp only
    rw [hmatch]
  · exact matchRows_perm_matchGroups (hsound.nodup_openLedger _) (hsound.nodup_openStatements _)

theorem twins_matchAmounts_adds_groups :
    twins.Reachable ∧ twins.tables = some twinTables ∧ 3 < wordLimit ∧
      ∃ added : List Pair,
        twins.matchAmounts .zero twinEntry.amount 3
          = (.ok (), ⟨some { twinTables with pairs := twinTables.pairs ++ added }⟩) ∧
        added.Perm (matchGroups LedgerRow.key StatementRow.key
          (twinTables.openLedger.filter fun r => Amount.zero.real.le r.real)
          (twinTables.openStatements.filter fun r => Amount.zero.real.le r.size)) :=
  ⟨twins_reachable, twins_tables, by decide,
    twins_reachable.matchAmounts_adds_groups twins_tables .zero twinEntry.amount (by decide)⟩

/-! ### Numbers of amounts -/

/-- The number of the amount that a text stands for. -/
def numberOfText (s : String) : Binary64 :=
  match stagedAmount s with
  | .ok a => a.real
  | .error _ => .nan

/-- What a ledger row would be matched by if it held the number of its amount. -/
def amountKey (r : LedgerRow) : MatchKey := ⟨numberOfText r.amount, r.date, r.direction⟩

/-- What a statement row would be matched by if it held the number of its amount. -/
def sizeKey (r : StatementRow) : MatchKey :=
  ⟨(numberOfText r.amount).abs, r.date, r.direction.opposite⟩

/-- Matching does not group rows by the numbers of their amounts. -/
theorem matchAmounts_not_by_amount :
    ¬ ∀ (s : Staging) (t : Tables) (smallest largest : Amount) (buckets : Nat),
      s.Reachable → s.tables = some t → buckets < wordLimit →
      ∃ added : List Pair,
        s.matchAmounts smallest largest buckets
          = (.ok (), ⟨some { t with pairs := t.pairs ++ added }⟩) ∧
        added.Perm (matchGroups amountKey sizeKey
          (t.openLedger.filter fun r => smallest.real.le (numberOfText r.amount))
          (t.openStatements.filter fun r => smallest.real.le (numberOfText r.amount).abs)) := by
  intro hclaim
  obtain ⟨added, hmatch, hperm⟩ :=
    hclaim twins twinTables .zero .zero 1 twins_reachable twins_tables (by decide)
  have htables : (twins.matchAmounts .zero .zero 1).2.tables = some matchedTables := by
    rw [← matchedTwins_tables, matchedTwins]
    dsimp only [serve, StagingArea.matchAmounts]
  have hgroups : matchGroups amountKey sizeKey
      (twinTables.openLedger.filter fun r => Amount.zero.real.le (numberOfText r.amount))
      (twinTables.openStatements.filter fun r => Amount.zero.real.le (numberOfText r.amount).abs)
        = [] := by
    decide +kernel
  rw [hgroups] at hperm
  rw [hmatch, hperm.eq_nil] at htables
  have hpairs : [] = [Pair.mk 1 1] := congrArg Tables.pairs (Option.some.inj htables)
  cases hpairs

/-! ### What pairs promise -/

/-- No row has two pairs, and every pair joins two rows in scope with one date, opposite directions
and one size. -/
structure PairsAgree (t : Tables) : Prop where
  ledger_once : (t.pairs.map Pair.ledger).Nodup
  statement_once : (t.pairs.map Pair.statement).Nodup
  joins : ∀ p ∈ t.pairs, ∃ l ∈ t.ledger, ∃ r ∈ t.statements,
    l.number = p.ledger ∧ r.number = p.statement ∧
    t.scope.hasDate l.date = true ∧ t.scope.hasDate r.date = true ∧ t.scope.hasBank r.bank = true ∧
    l.date = r.date ∧ l.direction = r.direction.opposite ∧ l.real = r.real.abs

theorem pairsAgree_of_sound {t : Tables} (h : t.Sound) : PairsAgree t where
  ledger_once := List.pairwise_map.2 (h.pairs_apart.imp And.left)
  statement_once := List.pairwise_map.2 (h.pairs_apart.imp And.right)
  joins := by
    intro p hp
    obtain ⟨l, hl, r, hr, hkey, rfl⟩ := h.pairs_join p hp
    obtain ⟨hlmem, hlscope⟩ := List.mem_filter.1 hl
    obtain ⟨hrmem, hrscope⟩ := List.mem_filter.1 hr
    obtain ⟨hrdate, hrbank⟩ := Bool.and_eq_true_iff.1 hrscope
    obtain ⟨hreal, hdate, hdirection⟩ := MatchKey.mk.inj hkey
    exact ⟨l, hlmem, r, hrmem, rfl, rfl, hlscope, hrdate, hrbank, hdate, hdirection,
      hreal.trans (h.size_eq hrmem)⟩

/-- In every reachable state pairs join rows that agree, and all requests but those that prepare the
area or discard its tables keep the pairs made before. -/
theorem Reachable.pairs_agree_and_stay {s : Staging} (h : s.Reachable) :
    (∀ t, s.tables = some t → PairsAgree t) ∧
      ∀ request : StagingRequest, ¬ request.Replaces → ∀ t, s.tables = some t →
        ∃ u, (s.serve request).tables = some u ∧ t.pairs <+: u.pairs := by
  refine ⟨fun t ht => pairsAgree_of_sound (h.sound t ht), ?_⟩
  intro request hkeeps t ht
  obtain ⟨u, hu, hext⟩ := h.sound.extends_serve hkeeps t ht
  exact ⟨u, hu, hext.pairs⟩

theorem twins_pairs_agree_and_stay :
    matchedTwins.Reachable ∧ matchedTwins.tables = some matchedTables ∧
      ¬ (StagingRequest.importEntries [twinEntry] 2).Replaces ∧ PairsAgree matchedTables ∧
      ∃ u, (matchedTwins.serve (.importEntries [twinEntry] 2)).tables = some u ∧
        matchedTables.pairs <+: u.pairs :=
  have hreach : matchedTwins.Reachable := .serve _ twins_reachable
  ⟨hreach, matchedTwins_tables, id, hreach.pairs_agree_and_stay.1 _ matchedTwins_tables,
    hreach.pairs_agree_and_stay.2 (.importEntries [twinEntry] 2) id _ matchedTwins_tables⟩

end Staging

end LedgerMatch
