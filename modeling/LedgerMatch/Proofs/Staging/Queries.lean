import LedgerMatch.Proofs.Staging.Tables

/-!
# The order of pairs does not matter

What the tables are asked for depends on which pairs were made, and not on the order in which they
were made. The summary goes through ledger rows together with their pairs; in sound tables these are
the ledger rows, each once.
-/

namespace LedgerMatch

namespace Tables

/-! ### Ledger rows with their pairs -/

/-- A row that has at most one of some pairs comes once. -/
theorem withPairs_of_apart {ps : List Pair} (h : ps.Pairwise Pair.Apart) (r : LedgerRow) :
    withPairs ps r = [(r, ps.any (·.ledger == r.number))] := by
  have hown := h.filter (·.ledger == r.number)
  have hany : (ps.any (·.ledger == r.number)) = (ps.filter (·.ledger == r.number)).any fun _ => true := by
    rw [List.any_filter]
    simp
  rw [withPairs, hany]
  cases hpairs : ps.filter (·.ledger == r.number) with
  | nil => rfl
  | cons p rest =>
      cases rest with
      | nil => rfl
      | cons q others =>
          -- both pairs would be pairs of the row
          rw [hpairs] at hown
          have hmem : ∀ x ∈ [p, q], x.ledger = r.number := by
            intro x hx
            have hx' : x ∈ ps.filter (·.ledger == r.number) := by
              rw [hpairs]
              exact List.mem_append_left others hx
            exact eq_of_beq (List.mem_filter.1 hx').2
          have hne := ((List.pairwise_cons.1 hown).1 q List.mem_cons_self).1
          exact (hne ((hmem p (by simp)).trans (hmem q (by simp)).symm)).elim

/-- The statement rows of all pairs are in scope. -/
theorem Sound.scopedPairs_eq {t : Tables} (h : t.Sound) : t.scopedPairs = t.pairs := by
  refine List.filter_eq_self.2 fun p hp => ?_
  obtain ⟨l, -, s, hs, -, rfl⟩ := h.pairs_join p hp
  exact List.any_eq_true.2 ⟨s, hs, beq_self_eq_true _⟩

theorem Sound.pairedLedger_eq {t : Tables} (h : t.Sound) :
    t.pairedLedger = t.scopedLedger.map fun r => (r, t.hasLedgerPair r.number) := by
  rw [pairedLedger, h.scopedPairs_eq, ← List.flatMap_pure_eq_map]
  exact List.flatMap_congr fun r _ => withPairs_of_apart h.pairs_apart r

/-! ### Reordered pairs -/

/-- Tables that differ at most in the order of their pairs. -/
structure Reordered (t u : Tables) : Prop where
  scope : u.scope = t.scope
  ledger : u.ledger = t.ledger
  statements : u.statements = t.statements
  pairs : t.pairs.Perm u.pairs

/-- Joined rows are rows in scope whose numbers make a pair. -/
theorem exists_pair_of_mem_joinedRows {t : Tables} {l : LedgerRow} {r : StatementRow}
    (h : (l, r) ∈ t.joinedRows) :
    l ∈ t.scopedLedger ∧ r ∈ t.scopedStatements ∧ pairOf l r ∈ t.pairs := by
  rw [joinedRows, List.mem_mergeSort, List.mem_filterMap] at h
  obtain ⟨p, hp, hjoined⟩ := h
  rw [joined?] at hjoined
  split at hjoined
  · next l' r' hl hr =>
      cases hjoined
      have hlfound := List.find?_some hl
      have hrfound := List.find?_some hr
      have hlnumber : l.number = p.ledger := eq_of_beq hlfound
      have hrnumber : r.number = p.statement := eq_of_beq hrfound
      refine ⟨List.mem_of_find?_eq_some hl, List.mem_of_find?_eq_some hr, ?_⟩
      rw [pairOf, hlnumber, hrnumber]
      exact hp
  · cases hjoined

/-- Joined rows of sound tables share a key. -/
theorem Sound.key_eq_of_mem_joinedRows {t : Tables} (h : t.Sound) {l : LedgerRow}
    {r : StatementRow} (hjoined : (l, r) ∈ t.joinedRows) :
    l.key = r.key := by
  obtain ⟨hl, hr, hp⟩ := exists_pair_of_mem_joinedRows hjoined
  obtain ⟨l', hl', r', hr', hkey, heq⟩ := h.pairs_join _ hp
  have hnumbers := Pair.mk.inj heq
  have hsame : l = l' := List.inj_on_of_nodup_map h.nodup_ledger (List.mem_filter.1 hl).1
    (List.mem_filter.1 hl').1 hnumbers.1
  have hsame' : r = r' := List.inj_on_of_nodup_map h.nodup_statements (List.mem_filter.1 hr).1
    (List.mem_filter.1 hr').1 hnumbers.2
  rw [hsame, hsame', hkey]

/-- A line left over has the bank of a staged row. -/
theorem exists_row_of_mem_openLines {t : Tables} {lines : List OpenLine}
    (h : t.openLines = .ok lines) {l : OpenLine} (hl : l ∈ lines) :
    ∃ r ∈ t.statements, l.bank = r.bank := by
  obtain ⟨r, hr, hread⟩ := exists_of_mem_mapM h hl
  rw [readOpenLine] at hread
  obtain ⟨date, -, hread⟩ := bind_eq_ok.1 hread
  obtain ⟨amount, -, hread⟩ := bind_eq_ok.1 hread
  cases hread
  exact ⟨r, mem_statements_of_mem_openStatements (List.mem_mergeSort.1 hr), rfl⟩

variable {t u : Tables} (h : t.Reordered u)

include h

theorem Reordered.scopedLedger_eq : u.scopedLedger = t.scopedLedger := by
  rw [scopedLedger, scopedLedger, h.scope, h.ledger]

theorem Reordered.scopedStatements_eq : u.scopedStatements = t.scopedStatements := by
  rw [scopedStatements, scopedStatements, h.scope, h.statements]

theorem Reordered.openLedger_eq : u.openLedger = t.openLedger := by
  rw [openLedger, openLedger, h.scopedLedger_eq]
  refine List.filter_congr fun r _ => ?_
  rw [hasLedgerPair, hasLedgerPair, h.pairs.any_eq]

theorem Reordered.openStatements_eq : u.openStatements = t.openStatements := by
  rw [openStatements, openStatements, h.scopedStatements_eq]
  refine List.filter_congr fun r _ => ?_
  rw [hasStatementPair, hasStatementPair, h.pairs.any_eq]

theorem Reordered.pairedLedger_eq (hsound : t.Sound) (hsound' : u.Sound) :
    u.pairedLedger = t.pairedLedger := by
  rw [hsound.pairedLedger_eq, hsound'.pairedLedger_eq, h.scopedLedger_eq]
  refine List.map_congr_left fun r _ => ?_
  rw [hasLedgerPair, hasLedgerPair, h.pairs.any_eq]

theorem Reordered.summary_eq (hsound : t.Sound) (hsound' : u.Sound) : u.summary = t.summary := by
  have hopen : (u.scopedStatements.filter fun r => !u.scopedPairs.any (·.statement == r.number))
      = t.scopedStatements.filter fun r => !t.scopedPairs.any (·.statement == r.number) := by
    rw [h.scopedStatements_eq, hsound.scopedPairs_eq, hsound'.scopedPairs_eq]
    exact List.filter_congr fun r _ => by rw [h.pairs.any_eq]
  unfold summary
  dsimp only
  rw [hopen, h.pairedLedger_eq hsound hsound', h.scopedStatements_eq]

theorem Reordered.openEntries_eq : u.openEntries = t.openEntries := by
  rw [openEntries, openEntries, h.openLedger_eq]

theorem Reordered.openLines_eq : u.openLines = t.openLines := by
  rw [openLines, openLines, h.openStatements_eq]

theorem Reordered.joined?_eq : u.joined? = t.joined? := by
  funext p
  rw [joined?, joined?, h.scopedLedger_eq, h.scopedStatements_eq]

/-- The joined rows of sound tables stand in one order. -/
theorem Reordered.joinedRows_eq (hsound : t.Sound) : u.joinedRows = t.joinedRows := by
  rw [joinedRows]
  rw [h.joined?_eq]
  symm
  apply mergeSort_eq_of_perm
  · exact fun a b c => LedgerRow.le_trans a.1 b.1 c.1
  · exact fun a b => LedgerRow.le_total a.1 b.1
  · rintro ⟨l, r⟩ hrow ⟨l', r'⟩ hrow' hle hle'
    obtain ⟨hl, hr, hp⟩ := exists_pair_of_mem_joinedRows (List.mem_mergeSort.2 hrow)
    obtain ⟨hl', hr', hp'⟩ := exists_pair_of_mem_joinedRows (List.mem_mergeSort.2 hrow')
    -- two joined rows with one ledger row come from one pair
    have hledger : l = l' := List.inj_on_of_nodup_map hsound.nodup_ledger (List.mem_filter.1 hl).1
      (List.mem_filter.1 hl').1 (LedgerRow.number_eq_of_le hle hle')
    have honce : (t.pairs.map Pair.ledger).Nodup :=
      List.pairwise_map.2 (hsound.pairs_apart.imp And.left)
    have hpair : pairOf l r = pairOf l' r' :=
      List.inj_on_of_nodup_map honce hp hp' (congrArg LedgerRow.number hledger)
    have hstatement : r = r' := List.inj_on_of_nodup_map hsound.nodup_statements
      (List.mem_filter.1 hr).1 (List.mem_filter.1 hr').1 (congrArg Pair.statement hpair)
    rw [hledger, hstatement]
  · exact h.pairs.filterMap _

theorem Reordered.matched_eq (hsound : t.Sound) : u.matched = t.matched := by
  rw [matched, matched, h.joinedRows_eq hsound]

end Tables

end LedgerMatch
