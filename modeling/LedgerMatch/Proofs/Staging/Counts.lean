import LedgerMatch.Proofs.Staging.Pairs
import LedgerMatch.Proofs.Staging.Queries

/-!
# Counts of rows

In sound tables a pair is found again among the joined rows, once. So the ledger rows in scope are
the joined ones together with the open ones, and the same holds of statement rows. The summary goes
another way, from ledger rows to their pairs, and arrives at the same counts.
-/

namespace LedgerMatch

namespace Tables

variable {t : Tables}

/-! ### Joined rows -/

/-- Two rows in scope are found again by their numbers. -/
theorem Sound.joined?_pairOf (h : t.Sound) {l : LedgerRow} {r : StatementRow}
    (hl : l ∈ t.scopedLedger) (hr : r ∈ t.scopedStatements) :
    t.joined? (pairOf l r) = some (l, r) := by
  have hlnodup : (t.scopedLedger.map LedgerRow.number).Nodup :=
    h.nodup_ledger.sublist (List.filter_sublist.map _)
  have hrnodup : (t.scopedStatements.map StatementRow.number).Nodup :=
    h.nodup_statements.sublist (List.filter_sublist.map _)
  have hlfind := find?_of_nodup hlnodup hl
  have hrfind := find?_of_nodup hrnodup hr
  unfold joined?
  rw [show t.scopedLedger.find? (·.number == (pairOf l r).ledger) = some l from hlfind,
    show t.scopedStatements.find? (·.number == (pairOf l r).statement) = some r from hrfind]

theorem Sound.mem_joinedRows (h : t.Sound) {l : LedgerRow} {r : StatementRow} :
    (l, r) ∈ t.joinedRows ↔ l ∈ t.scopedLedger ∧ r ∈ t.scopedStatements ∧ pairOf l r ∈ t.pairs := by
  refine ⟨exists_pair_of_mem_joinedRows, ?_⟩
  rintro ⟨hl, hr, hp⟩
  rw [joinedRows, List.mem_mergeSort, List.mem_filterMap]
  exact ⟨pairOf l r, hp, h.joined?_pairOf hl hr⟩

/-- The joined rows are the pairs, each once. -/
theorem Sound.map_pairOf_joinedRows (h : t.Sound) :
    (t.joinedRows.map fun row => pairOf row.1 row.2).Perm t.pairs := by
  have hpairs : (t.pairs.filterMap t.joined?).map (fun row => pairOf row.1 row.2) = t.pairs := by
    rw [List.map_filterMap, List.filterMap_congr (g := some), List.filterMap_some]
    intro p hp
    obtain ⟨l, hl, r, hr, -, rfl⟩ := h.pairs_join p hp
    rw [h.joined?_pairOf hl hr]
    rfl
  have hsort := (List.mergeSort_perm (t.pairs.filterMap t.joined?) fun a b => a.1.le b.1).map
    fun row => pairOf row.1 row.2
  rw [hpairs] at hsort
  exact hsort

/-- Every ledger row in scope is joined or open. -/
theorem Sound.ledger_perm (h : t.Sound) :
    (t.joinedRows.map Prod.fst ++ t.openLedger).Perm t.scopedLedger := by
  have honce : (t.joinedRows.map Prod.fst).Nodup := by
    refine List.Nodup.of_map LedgerRow.number ?_
    have hpairs : (t.pairs.map Pair.ledger).Nodup :=
      List.pairwise_map.2 (h.pairs_apart.imp And.left)
    have hnumbers := (h.map_pairOf_joinedRows.map Pair.ledger).nodup_iff.2 hpairs
    rw [List.map_map] at hnumbers ⊢
    exact hnumbers
  have hscoped : t.scopedLedger.Nodup :=
    List.Nodup.of_map _ (h.nodup_ledger.sublist (List.filter_sublist.map _))
  have hjoined : (t.joinedRows.map Prod.fst).Perm
      (t.scopedLedger.filter fun r => t.hasLedgerPair r.number) := by
    refine (List.perm_ext_iff_of_nodup honce (hscoped.filter _)).2 fun l => ?_
    rw [List.mem_map, List.mem_filter]
    constructor
    · rintro ⟨⟨l', r⟩, hrow, rfl⟩
      obtain ⟨hl, -, hp⟩ := h.mem_joinedRows.1 hrow
      exact ⟨hl, List.any_eq_true.2 ⟨_, hp, beq_self_eq_true _⟩⟩
    · rintro ⟨hl, hpair⟩
      obtain ⟨p, hp, hnumber⟩ := List.any_eq_true.1 hpair
      obtain ⟨l', hl', r, hr, -, rfl⟩ := h.pairs_join p hp
      have hsame : l' = l := List.inj_on_of_nodup_map h.nodup_ledger (List.mem_filter.1 hl').1
        (List.mem_filter.1 hl).1 (eq_of_beq hnumber)
      subst hsame
      exact ⟨(l', r), h.mem_joinedRows.2 ⟨hl', hr, hp⟩, rfl⟩
  exact (hjoined.append_right _).trans (List.filter_append_perm _ _)

/-- Every statement row in scope is joined or open. -/
theorem Sound.statements_perm (h : t.Sound) :
    (t.joinedRows.map Prod.snd ++ t.openStatements).Perm t.scopedStatements := by
  have honce : (t.joinedRows.map Prod.snd).Nodup := by
    refine List.Nodup.of_map StatementRow.number ?_
    have hpairs : (t.pairs.map Pair.statement).Nodup :=
      List.pairwise_map.2 (h.pairs_apart.imp And.right)
    have hnumbers := (h.map_pairOf_joinedRows.map Pair.statement).nodup_iff.2 hpairs
    rw [List.map_map] at hnumbers ⊢
    exact hnumbers
  have hscoped : t.scopedStatements.Nodup :=
    List.Nodup.of_map _ (h.nodup_statements.sublist (List.filter_sublist.map _))
  have hjoined : (t.joinedRows.map Prod.snd).Perm
      (t.scopedStatements.filter fun r => t.hasStatementPair r.number) := by
    refine (List.perm_ext_iff_of_nodup honce (hscoped.filter _)).2 fun r => ?_
    rw [List.mem_map, List.mem_filter]
    constructor
    · rintro ⟨⟨l, r'⟩, hrow, rfl⟩
      obtain ⟨-, hr, hp⟩ := h.mem_joinedRows.1 hrow
      exact ⟨hr, List.any_eq_true.2 ⟨_, hp, beq_self_eq_true _⟩⟩
    · rintro ⟨hr, hpair⟩
      obtain ⟨p, hp, hnumber⟩ := List.any_eq_true.1 hpair
      obtain ⟨l, hl, r', hr', -, rfl⟩ := h.pairs_join p hp
      have hsame : r' = r := List.inj_on_of_nodup_map h.nodup_statements (List.mem_filter.1 hr').1
        (List.mem_filter.1 hr).1 (eq_of_beq hnumber)
      subst hsame
      exact ⟨(l, r'), h.mem_joinedRows.2 ⟨hl, hr', hp⟩, rfl⟩
  exact (hjoined.append_right _).trans (List.filter_append_perm _ _)

/-! ### The summary -/

/-- As many ledger rows have a pair as there are joined rows. -/
theorem Sound.length_filter_pairedLedger (h : t.Sound) :
    (t.pairedLedger.filter (·.2)).length = t.joinedRows.length := by
  have hlength := h.ledger_perm.length_eq
  have hsplit := (List.filter_append_perm (fun r => t.hasLedgerPair r.number)
    t.scopedLedger).length_eq
  have hcount : (t.pairedLedger.filter (·.2)).length
      = (t.scopedLedger.filter fun r => t.hasLedgerPair r.number).length := by
    rw [h.pairedLedger_eq, List.filter_map, List.length_map]
    rfl
  rw [List.length_append, List.length_map, openLedger] at hlength
  rw [List.length_append] at hsplit
  omega

/-- What a summary of sound tables counts. -/
theorem Sound.summary_counts (h : t.Sound) {summary : Summary} (hsummary : t.summary = .ok summary) :
    summary.ledgerCount = t.scopedLedger.length ∧
      summary.matchedCount = t.joinedRows.length ∧
      summary.openLedgerCount = t.openLedger.length ∧
      summary.statementCount = t.scopedStatements.length ∧
      summary.openStatementCount = t.openStatements.length := by
  obtain ⟨sums, -, hrest⟩ := bind_eq_ok.1 hsummary
  cases hrest
  have hpaired : t.pairedLedger.length = t.scopedLedger.length := by
    rw [h.pairedLedger_eq, List.length_map]
  have hmatched := h.length_filter_pairedLedger
  have hledger := h.ledger_perm.length_eq
  rw [List.length_append, List.length_map] at hledger
  refine ⟨hpaired, hmatched, ?_, rfl, ?_⟩
  · show t.pairedLedger.length - (t.pairedLedger.filter (·.2)).length = t.openLedger.length
    omega
  · show (t.scopedStatements.filter fun r => !t.scopedPairs.any (·.statement == r.number)).length
      = t.openStatements.length
    rw [h.scopedPairs_eq]
    rfl

end Tables

namespace Staging

/-- The counts of a summary are those of the rows that an area lists, and add up on both sides. -/
structure CountsRows (s : Staging) (summary : Summary) : Prop where
  ledger_total : summary.matchedCount + summary.openLedgerCount = summary.ledgerCount
  statement_total : summary.matchedCount + summary.openStatementCount = summary.statementCount
  matched_rows : ∀ rows, s.matched = .ok rows → summary.matchedCount = rows.length
  open_entries : ∀ entries, s.openEntries = .ok entries → summary.openLedgerCount = entries.length
  open_lines : ∀ lines, s.openLines = .ok lines → summary.openStatementCount = lines.length

theorem countsRows_of_sound {s : Staging} {t : Tables} (h : t.Sound) (ht : s.tables = some t)
    {summary : Summary} (hsummary : s.summary = .ok summary) : s.CountsRows summary := by
  have hquery : ∀ {α : Type} (op : Tables → Except Failure α), s.query op = op t := by
    intro α op
    rw [query, ht]
  obtain ⟨hledger, hmatched, hopen, hstatements, hopen'⟩ :=
    h.summary_counts ((hquery Tables.summary).symm.trans hsummary)
  have hperm := h.ledger_perm.length_eq
  have hperm' := h.statements_perm.length_eq
  rw [List.length_append, List.length_map] at hperm hperm'
  refine ⟨by omega, by omega, ?_, ?_, ?_⟩
  · intro rows hrows
    have hread := forall₂_of_mapM ((hquery Tables.matched).symm.trans hrows)
    rw [hmatched, hread.length_eq]
  · intro entries hentries
    have hread := forall₂_of_mapM ((hquery Tables.openEntries).symm.trans hentries)
    rw [hopen, ← hread.length_eq, List.length_mergeSort]
  · intro lines hlines
    have hread := forall₂_of_mapM ((hquery Tables.openLines).symm.trans hlines)
    rw [hopen', ← hread.length_eq, List.length_mergeSort]

/-- In every reachable state the summary counts what is listed, and no row is listed both as matched
and as left over. -/
theorem Reachable.summary_counts_rows {s : Staging} {t : Tables} (h : s.Reachable)
    (ht : s.tables = some t) :
    (∀ summary, s.summary = .ok summary → s.CountsRows summary) ∧
      ∀ row ∈ t.joinedRows, row.1 ∉ t.openLedger ∧ row.2 ∉ t.openStatements := by
  have hsound := h.sound t ht
  refine ⟨fun summary hsummary => countsRows_of_sound hsound ht hsummary, ?_⟩
  intro row hrow
  obtain ⟨-, -, hp⟩ := hsound.mem_joinedRows.1 hrow
  constructor
  · intro hopen
    exact (Tables.mem_openLedger.1 hopen).2 _ hp rfl
  · intro hopen
    exact (Tables.mem_openStatements.1 hopen).2 _ hp rfl

/-- The small area with its rows matched, and then a further entry and two further lines. -/
def leftovers : Staging :=
  (matchedTwins.serve (.importEntries [twinEntry] 2)).serve (.importLines [twinLine, twinLine] 1)

def leftoverTables : Tables :=
  { matchedTables with
    ledger := matchedTables.ledger ++ [.ofEntry 2 twinEntry]
    statements := matchedTables.statements ++ [.ofLine 2 twinLine, .ofLine 3 twinLine] }

theorem leftovers_tables : leftovers.tables = some leftoverTables := by
  have hmatched : matchedTwins = ⟨some matchedTables⟩ := by rw [← matchedTwins_tables]
  rw [leftovers, hmatched]
  decide +kernel

def leftoverSummary : Summary where
  ledgerCount := 2
  matchedCount := 1
  openLedgerCount := 1
  ledgerSum := { twinEntry.amount with mantissa := 69891702663742, mantissa_lt := by decide }
  matchedSum := twinEntry.amount
  openLedgerSum := twinEntry.amount
  statementCount := 3
  openStatementCount := 2

theorem leftovers_summary : leftovers.summary = .ok leftoverSummary := by
  rw [summary, query, leftovers_tables]
  decide +kernel

theorem leftovers_summary_counts_rows :
    leftovers.Reachable ∧ leftovers.tables = some leftoverTables ∧
      leftovers.summary = .ok leftoverSummary ∧ leftovers.CountsRows leftoverSummary ∧
      ∀ row ∈ leftoverTables.joinedRows,
        row.1 ∉ leftoverTables.openLedger ∧ row.2 ∉ leftoverTables.openStatements :=
  have hreach : leftovers.Reachable := .serve _ (.serve _ (.serve _ twins_reachable))
  have hcounts := hreach.summary_counts_rows leftovers_tables
  ⟨hreach, leftovers_tables, leftovers_summary, hcounts.1 _ leftovers_summary, hcounts.2⟩

end Staging

end LedgerMatch
