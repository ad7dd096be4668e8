import LedgerMatch.Proofs.Staging.Atomicity
import LedgerMatch.Proofs.Staging.Maximum
import LedgerMatch.Proofs.Staging.Sums

/-!
# The order of imports does not matter

Rows are numbered in the order in which they are staged, and the number stands behind the identifier
wherever rows are ordered. As long as no two records of a side share their identifier the numbers
never decide anything: areas that hold the same rows with any numbers pair the same rows and report
the same lists. Only whether the amounts can be added up depends on the order of the rows.
-/

namespace LedgerMatch

/-! ### Rows without their numbers -/

def LedgerRow.unnumbered (r : LedgerRow) : LedgerRow := { r with number := 0 }

def StatementRow.unnumbered (r : StatementRow) : StatementRow := { r with number := 0 }

/-- Two joined rows without their numbers. -/
def unnumberedRows (row : LedgerRow × StatementRow) : LedgerRow × StatementRow :=
  (row.1.unnumbered, row.2.unnumbered)

theorem map_id_unnumbered_ledger (rows : List LedgerRow) :
    (rows.map LedgerRow.unnumbered).map LedgerRow.id = rows.map LedgerRow.id := by
  rw [List.map_map]
  rfl

theorem map_id_unnumbered_statements (rows : List StatementRow) :
    (rows.map StatementRow.unnumbered).map StatementRow.id = rows.map StatementRow.id := by
  rw [List.map_map]
  rfl

/-- Elements are told apart by texts that no two of them share. -/
theorem eq_of_text_le {α : Type} {text : α → String} {as : List α} (h : (as.map text).Nodup) :
    ∀ a ∈ as, ∀ b ∈ as, text a ≤ text b → text b ≤ text a → a = b :=
  fun _ ha _ hb hab hba => List.inj_on_of_nodup_map h ha hb (String.le_antisymm hab hba)

/-- Ledger rows that are the same but for their numbers are sorted to such rows. -/
theorem map_unnumbered_mergeSort_ledger {rows rows' : List LedgerRow}
    (hids : (rows.map LedgerRow.id).Nodup)
    (h : (rows.map LedgerRow.unnumbered).Perm (rows'.map LedgerRow.unnumbered)) :
    (rows.mergeSort LedgerRow.le).map LedgerRow.unnumbered
      = (rows'.mergeSort LedgerRow.le).map LedgerRow.unnumbered := by
  have hseen : ((rows.map LedgerRow.unnumbered).map LedgerRow.id).Nodup := by
    rw [map_id_unnumbered_ledger]
    exact hids
  have hanti : ∀ a ∈ rows.map LedgerRow.unnumbered, ∀ b ∈ rows.map LedgerRow.unnumbered,
      a.id ≤ b.id → b.id ≤ a.id → a = b := eq_of_text_le hseen
  exact map_mergeSort_eq_of_perm LedgerRow.unnumbered (fun a b => a.id ≤ b.id) LedgerRow.le_trans
    LedgerRow.le_total (fun _ _ => LedgerRow.id_le_of_le) hanti h

/-- Statement rows that are the same but for their numbers are sorted to such rows. -/
theorem map_unnumbered_mergeSort_statements {rows rows' : List StatementRow}
    (hids : (rows.map StatementRow.id).Nodup)
    (h : (rows.map StatementRow.unnumbered).Perm (rows'.map StatementRow.unnumbered)) :
    (rows.mergeSort StatementRow.le).map StatementRow.unnumbered
      = (rows'.mergeSort StatementRow.le).map StatementRow.unnumbered := by
  have hseen : ((rows.map StatementRow.unnumbered).map StatementRow.id).Nodup := by
    rw [map_id_unnumbered_statements]
    exact hids
  have hanti : ∀ a ∈ rows.map StatementRow.unnumbered, ∀ b ∈ rows.map StatementRow.unnumbered,
      a.id ≤ b.id → b.id ≤ a.id → a = b := eq_of_text_le hseen
  exact map_mergeSort_eq_of_perm StatementRow.unnumbered (fun a b => a.id ≤ b.id)
    StatementRow.le_trans StatementRow.le_total (fun _ _ => StatementRow.id_le_of_le) hanti h

/-- Summaries that count the same numbers of rows. -/
structure Summary.SameCounts (a b : Summary) : Prop where
  ledger : a.ledgerCount = b.ledgerCount
  matched : a.matchedCount = b.matchedCount
  openLedger : a.openLedgerCount = b.openLedgerCount
  statements : a.statementCount = b.statementCount
  openStatements : a.openStatementCount = b.openStatementCount

/-! ### Tables that are alike -/

namespace Tables

/-- Tables that hold the same rows, in any order and with any numbers, and pair the same rows. No
two rows of a side share their identifier. -/
structure Alike (t u : Tables) : Prop where
  scope : u.scope = t.scope
  ledger : (t.ledger.map LedgerRow.unnumbered).Perm (u.ledger.map LedgerRow.unnumbered)
  statements :
    (t.statements.map StatementRow.unnumbered).Perm (u.statements.map StatementRow.unnumbered)
  joined : (t.joinedRows.map unnumberedRows).Perm (u.joinedRows.map unnumberedRows)
  ledger_ids : (t.ledger.map LedgerRow.id).Nodup
  statement_ids : (t.statements.map StatementRow.id).Nodup

section

variable {t u : Tables}

theorem Alike.symm (h : t.Alike u) : u.Alike t where
  scope := h.scope.symm
  ledger := h.ledger.symm
  statements := h.statements.symm
  joined := h.joined.symm
  ledger_ids := by
    have hperm := h.ledger.map LedgerRow.id
    rw [map_id_unnumbered_ledger, map_id_unnumbered_ledger] at hperm
    exact hperm.nodup_iff.1 h.ledger_ids
  statement_ids := by
    have hperm := h.statements.map StatementRow.id
    rw [map_id_unnumbered_statements, map_id_unnumbered_statements] at hperm
    exact hperm.nodup_iff.1 h.statement_ids

/-! ### Rows of tables that are alike -/

variable (h : t.Alike u)

include h

theorem Alike.scopedLedger :
    (t.scopedLedger.map LedgerRow.unnumbered).Perm (u.scopedLedger.map LedgerRow.unnumbered) := by
  have hscope : ∀ v : Tables, v.scope.hasLedgerRow ∘ LedgerRow.unnumbered = v.scope.hasLedgerRow :=
    fun _ => rfl
  have hfilter := h.ledger.filter t.scope.hasLedgerRow
  rw [List.filter_map, hscope, ← h.scope, List.filter_map, hscope, h.scope] at hfilter
  rw [Tables.scopedLedger, Tables.scopedLedger, h.scope]
  exact hfilter

theorem Alike.scopedStatements :
    (t.scopedStatements.map StatementRow.unnumbered).Perm
      (u.scopedStatements.map StatementRow.unnumbered) := by
  have hscope : ∀ v : Tables,
      v.scope.hasStatementRow ∘ StatementRow.unnumbered = v.scope.hasStatementRow := fun _ => rfl
  have hfilter := h.statements.filter t.scope.hasStatementRow
  rw [List.filter_map, hscope, ← h.scope, List.filter_map, hscope, h.scope] at hfilter
  rw [Tables.scopedStatements, Tables.scopedStatements, h.scope]
  exact hfilter

/-- What is left over is what is in scope and was not joined. -/
theorem Alike.openLedger (ht : t.Sound) (hu : u.Sound) :
    (t.openLedger.map LedgerRow.unnumbered).Perm (u.openLedger.map LedgerRow.unnumbered) := by
  have hjoined : ((t.joinedRows.map Prod.fst).map LedgerRow.unnumbered).Perm
      ((u.joinedRows.map Prod.fst).map LedgerRow.unnumbered) := by
    have hfirst := h.joined.map Prod.fst
    rw [List.map_map, List.map_map] at hfirst ⊢
    exact hfirst
  exact map_rest_perm LedgerRow.unnumbered ht.ledger_perm hu.ledger_perm h.scopedLedger hjoined

theorem Alike.openStatements (ht : t.Sound) (hu : u.Sound) :
    (t.openStatements.map StatementRow.unnumbered).Perm
      (u.openStatements.map StatementRow.unnumbered) := by
  have hjoined : ((t.joinedRows.map Prod.snd).map StatementRow.unnumbered).Perm
      ((u.joinedRows.map Prod.snd).map StatementRow.unnumbered) := by
    have hsecond := h.joined.map Prod.snd
    rw [List.map_map, List.map_map] at hsecond ⊢
    exact hsecond
  exact map_rest_perm StatementRow.unnumbered ht.statements_perm hu.statements_perm
    h.scopedStatements hjoined

/-- Both sides of a group stand in the same order. -/
theorem Alike.ledgerGroup_eq (ht : t.Sound) (hu : u.Sound) (k : MatchKey) :
    (ledgerGroup LedgerRow.key t.openLedger k).map LedgerRow.unnumbered
      = (ledgerGroup LedgerRow.key u.openLedger k).map LedgerRow.unnumbered := by
  have hkey : (LedgerRow.key · == k) ∘ LedgerRow.unnumbered = (LedgerRow.key · == k) := rfl
  have hfilter := (h.openLedger ht hu).filter (LedgerRow.key · == k)
  rw [List.filter_map, List.filter_map, hkey] at hfilter
  refine map_unnumbered_mergeSort_ledger (h.ledger_ids.sublist ?_) hfilter
  exact (List.filter_sublist.trans (List.filter_sublist.trans List.filter_sublist)).map _

theorem Alike.statementGroup_eq (ht : t.Sound) (hu : u.Sound) (k : MatchKey) :
    (statementGroup StatementRow.key t.openStatements k).map StatementRow.unnumbered
      = (statementGroup StatementRow.key u.openStatements k).map StatementRow.unnumbered := by
  have hkey : (StatementRow.key · == k) ∘ StatementRow.unnumbered = (StatementRow.key · == k) := rfl
  have hfilter := (h.openStatements ht hu).filter (StatementRow.key · == k)
  rw [List.filter_map, List.filter_map, hkey] at hfilter
  refine map_unnumbered_mergeSort_statements (h.statement_ids.sublist ?_) hfilter
  exact (List.filter_sublist.trans (List.filter_sublist.trans List.filter_sublist)).map _

end

/-! ### Matching tables that are alike -/

section

variable {t u : Tables}

/-- The joined rows have the identifiers of rows, each once. -/
theorem Sound.nodup_joined_ids (h : t.Sound) (hids : (t.ledger.map LedgerRow.id).Nodup) :
    (t.joinedRows.map fun row => row.1.id).Nodup := by
  have hscoped : (t.scopedLedger.map LedgerRow.id).Nodup :=
    hids.sublist (List.filter_sublist.map _)
  have hall := (h.ledger_perm.map LedgerRow.id).nodup_iff.2 hscoped
  rw [List.map_append, List.map_map] at hall
  exact hall.of_append_left

theorem Sound.nodup_unnumbered (h : t.Sound) (hids : (t.ledger.map LedgerRow.id).Nodup) :
    (t.joinedRows.map unnumberedRows).Nodup := by
  refine List.Nodup.of_map (fun row => row.1.id) ?_
  rw [List.map_map]
  exact h.nodup_joined_ids hids

/-- After matching from a smallest amount on, joined rows were joined before or have one place in
the two sides of a group. -/
theorem Sound.mem_joinedRows_append (h : t.Sound) {smallest : Binary64} {added : List Pair}
    (hadded : added.Perm (t.pairsFrom smallest)) (hsound : Sound { t with pairs := t.pairs ++ added })
    {l : LedgerRow} {r : StatementRow} :
    (l, r) ∈ joinedRows { t with pairs := t.pairs ++ added } ↔ (l, r) ∈ t.joinedRows ∨
      ∃ k, smallest.le k.amount = true ∧ ∃ i : Nat,
        (ledgerGroup LedgerRow.key t.openLedger k)[i]? = some l ∧
          (statementGroup StatementRow.key t.openStatements k)[i]? = some r := by
  rw [hsound.mem_joinedRows, h.mem_joinedRows]
  show l ∈ t.scopedLedger ∧ r ∈ t.scopedStatements ∧ pairOf l r ∈ t.pairs ++ added ↔ _
  rw [List.mem_append, hadded.mem_iff, h.mem_pairsFrom]
  constructor
  · rintro ⟨hl, hr, hold | ⟨k, hk, i, l', r', hl', hr', hpair⟩⟩
    · exact Or.inl ⟨hl, hr, hold⟩
    · have hlmem := (mem_ledgerGroup.1 (List.mem_of_getElem? hl')).1
      have hrmem := (mem_statementGroup.1 (List.mem_of_getElem? hr')).1
      have hnumbers := Pair.mk.inj hpair
      have hledger : l = l' := List.inj_on_of_nodup_map h.nodup_ledger (List.mem_filter.1 hl).1
        (mem_ledger_of_mem_openLedger hlmem) hnumbers.1
      have hstatement : r = r' := List.inj_on_of_nodup_map h.nodup_statements
        (List.mem_filter.1 hr).1 (mem_statements_of_mem_openStatements hrmem) hnumbers.2
      rw [← hledger] at hl'
      rw [← hstatement] at hr'
      exact Or.inr ⟨k, hk, i, hl', hr'⟩
  · rintro (⟨hl, hr, hold⟩ | ⟨k, hk, i, hl, hr⟩)
    · exact ⟨hl, hr, Or.inl hold⟩
    · have hlmem := (mem_ledgerGroup.1 (List.mem_of_getElem? hl)).1
      have hrmem := (mem_statementGroup.1 (List.mem_of_getElem? hr)).1
      exact ⟨(mem_openLedger.1 hlmem).1, (mem_openStatements.1 hrmem).1,
        Or.inr ⟨k, hk, i, l, r, hl, hr, rfl⟩⟩

/-- Places in a group are the same with and without numbers. -/
theorem mem_unnumbered_joinedRows (h : t.Sound) {smallest : Binary64} {added : List Pair}
    (hadded : added.Perm (t.pairsFrom smallest)) (hsound : Sound { t with pairs := t.pairs ++ added })
    {row : LedgerRow × StatementRow} :
    row ∈ (joinedRows { t with pairs := t.pairs ++ added }).map unnumberedRows ↔
      row ∈ t.joinedRows.map unnumberedRows ∨ ∃ k, smallest.le k.amount = true ∧ ∃ i : Nat,
        ((ledgerGroup LedgerRow.key t.openLedger k).map LedgerRow.unnumbered)[i]? = some row.1 ∧
          ((statementGroup StatementRow.key t.openStatements k).map StatementRow.unnumbered)[i]?
            = some row.2 := by
  simp only [List.mem_map, List.getElem?_map, Option.map_eq_some_iff, Prod.exists,
    h.mem_joinedRows_append hadded hsound]
  constructor
  · rintro ⟨l, r, hold | ⟨k, hk, i, hl, hr⟩, rfl⟩
    · exact Or.inl ⟨l, r, hold, rfl⟩
    · exact Or.inr ⟨k, hk, i, ⟨l, hl, rfl⟩, ⟨r, hr, rfl⟩⟩
  · rintro (⟨l, r, hold, rfl⟩ | ⟨k, hk, i, ⟨l, hl, hl'⟩, ⟨r, hr, hr'⟩⟩)
    · exact ⟨l, r, Or.inl hold, rfl⟩
    · exact ⟨l, r, Or.inr ⟨k, hk, i, hl, hr⟩, Prod.ext hl' hr'⟩

/-- Matching from one smallest amount on keeps tables alike. -/
theorem Alike.matchAmounts (h : t.Alike u) (ht : t.Sound) (hu : u.Sound)
    (smallest largest largest' : Amount) {buckets buckets' : Nat} (hbuckets : buckets ≤ wordLimit)
    (hbuckets' : buckets' ≤ wordLimit) :
    (t.matchAmounts smallest largest buckets).2.Alike
      (u.matchAmounts smallest largest' buckets').2 := by
  have htsound := (matchAmounts_sound ht smallest largest buckets).1
  have husound := (matchAmounts_sound hu smallest largest' buckets').1
  obtain ⟨added, hadded, hmatch⟩ := ht.matchAmounts_eq smallest largest hbuckets
  obtain ⟨added', hadded', hmatch'⟩ := hu.matchAmounts_eq smallest largest' hbuckets'
  rw [hmatch] at htsound ⊢
  rw [hmatch'] at husound ⊢
  refine { h with joined := ?_ }
  refine (List.perm_ext_iff_of_nodup (htsound.nodup_unnumbered h.ledger_ids)
    (husound.nodup_unnumbered h.symm.ledger_ids)).2 fun row => ?_
  rw [mem_unnumbered_joinedRows ht hadded htsound, mem_unnumbered_joinedRows hu hadded' husound,
    h.joined.mem_iff]
  simp only [h.ledgerGroup_eq ht hu, h.statementGroup_eq ht hu]

/-! ### What tables that are alike report -/

section

variable (h : t.Alike u)

include h

/-- Joined rows stand in the same order. -/
theorem Alike.joinedRows_eq (ht : t.Sound) :
    t.joinedRows.map unnumberedRows = u.joinedRows.map unnumberedRows := by
  have hrows : ∀ v : Tables, (v.joinedRows.map unnumberedRows).Perm
      ((v.pairs.filterMap v.joined?).map unnumberedRows) := fun v =>
    (List.mergeSort_perm _ _).map unnumberedRows
  have hids : (((t.pairs.filterMap t.joined?).map unnumberedRows).map fun row => row.1.id).Nodup := by
    rw [← ((hrows t).map _).nodup_iff, List.map_map]
    exact ht.nodup_joined_ids h.ledger_ids
  have hanti : ∀ a ∈ (t.pairs.filterMap t.joined?).map unnumberedRows,
      ∀ b ∈ (t.pairs.filterMap t.joined?).map unnumberedRows,
      a.1.id ≤ b.1.id → b.1.id ≤ a.1.id → a = b := eq_of_text_le hids
  exact map_mergeSort_eq_of_perm unnumberedRows (fun a b => a.1.id ≤ b.1.id)
    (fun a b c => LedgerRow.le_trans a.1 b.1 c.1) (fun a b => LedgerRow.le_total a.1 b.1)
    (fun _ _ => LedgerRow.id_le_of_le) hanti ((hrows t).symm.trans (h.joined.trans (hrows u)))

theorem Alike.matched_eq (ht : t.Sound) : t.matched = u.matched :=
  mapM_eq_of_map_eq unnumberedRows (fun _ => rfl) (h.joinedRows_eq ht)

theorem Alike.openEntries_eq (ht : t.Sound) (hu : u.Sound) : t.openEntries = u.openEntries := by
  have hids : (t.openLedger.map LedgerRow.id).Nodup :=
    h.ledger_ids.sublist ((List.filter_sublist.trans List.filter_sublist).map _)
  exact mapM_eq_of_map_eq LedgerRow.unnumbered (fun _ => rfl)
    (map_unnumbered_mergeSort_ledger hids (h.openLedger ht hu))

theorem Alike.openLines_eq (ht : t.Sound) (hu : u.Sound) : t.openLines = u.openLines := by
  have hids : ((t.openStatements.map StatementRow.unnumbered).map StatementRow.id).Nodup := by
    rw [map_id_unnumbered_statements]
    exact h.statement_ids.sublist ((List.filter_sublist.trans List.filter_sublist).map _)
  refine mapM_eq_of_map_eq StatementRow.unnumbered (fun _ => rfl)
    (map_mergeSort_eq_of_perm StatementRow.unnumbered
      (fun a b => a.bank < b.bank ∨ (a.bank = b.bank ∧ a.id ≤ b.id)) bankLe_trans bankLe_total
      (fun a b hle => ?_) (fun a ha b hb hab hba => ?_) (h.openStatements ht hu))
  · rcases bankLe_iff.1 hle with hbank | ⟨hbank, hrest⟩
    · exact Or.inl hbank
    · have hid : a.id ≤ b.id := StatementRow.id_le_of_le hrest
      exact Or.inr ⟨hbank, hid⟩
  · rcases hab with hab | ⟨hbank, hab⟩
    · rcases hba with hba | ⟨hbank, -⟩
      · exact (String.lt_asymm hab hba).elim
      · exact (String.lt_irrefl _ (hbank ▸ hab)).elim
    · rcases hba with hba | ⟨-, hba⟩
      · exact (String.lt_irrefl _ (hbank ▸ hba)).elim
      · exact eq_of_text_le hids a ha b hb hab hba

theorem Alike.sameCounts (ht : t.Sound) (hu : u.Sound) {summary summary' : Summary}
    (hsummary : t.summary = .ok summary) (hsummary' : u.summary = .ok summary') :
    summary.SameCounts summary' := by
  obtain ⟨hledger, hmatched, hopen, hstatements, hopen'⟩ := ht.summary_counts hsummary
  obtain ⟨kledger, kmatched, kopen, kstatements, kopen'⟩ := hu.summary_counts hsummary'
  have hlength : ∀ {α β : Type} {f : α → β} {as bs : List α}, (as.map f).Perm (bs.map f) →
      as.length = bs.length := fun hperm => by simpa using hperm.length_eq
  exact
    { ledger := by rw [hledger, kledger, hlength h.scopedLedger]
      matched := by rw [hmatched, kmatched, hlength h.joined]
      openLedger := by rw [hopen, kopen, hlength (h.openLedger ht hu)]
      statements := by rw [hstatements, kstatements, hlength h.scopedStatements]
      openStatements := by rw [hopen', kopen', hlength (h.openStatements ht hu)] }

end

end

/-! ### Tables with the same records -/

theorem map_unnumbered_entryRows (count : Nat) (entries : List LedgerEntry) :
    (entryRows count entries).map LedgerRow.unnumbered = entries.map (LedgerRow.ofEntry 0) := by
  have hfun : (LedgerRow.unnumbered ∘ fun e : LedgerEntry × Nat => .ofEntry (count + 1 + e.2) e.1)
      = LedgerRow.ofEntry 0 ∘ Prod.fst := rfl
  rw [entryRows, List.map_map, hfun, ← List.map_map, List.zipIdx_map_fst]

theorem map_unnumbered_lineRows (count : Nat) (lines : List StatementLine) :
    (lineRows count lines).map StatementRow.unnumbered = lines.map (StatementRow.ofLine 0) := by
  have hfun : (StatementRow.unnumbered ∘ fun l : StatementLine × Nat => .ofLine (count + 1 + l.2) l.1)
      = StatementRow.ofLine 0 ∘ Prod.fst := rfl
  rw [lineRows, List.map_map, hfun, ← List.map_map, List.zipIdx_map_fst]

/-- Tables with the same records and no pairs are alike, however the records were staged. -/
theorem Holds.alike {t u : Tables} {w : Window} {entries entries' : List LedgerEntry}
    {lines lines' : List StatementLine} (ht : t.Holds w entries lines)
    (hu : u.Holds w entries' lines') (hpairs : t.pairs = []) (hpairs' : u.pairs = [])
    (hentries : entries.Perm entries') (hlines : lines.Perm lines')
    (hentryIds : (entries.map LedgerEntry.id).Nodup) (hlineIds : (lines.map StatementLine.id).Nodup) :
    t.Alike u where
  scope := hu.scope.trans ht.scope.symm
  ledger := by
    rw [ht.ledger, hu.ledger, map_unnumbered_entryRows, map_unnumbered_entryRows]
    exact hentries.map _
  statements := by
    rw [ht.statements, hu.statements, map_unnumbered_lineRows, map_unnumbered_lineRows]
    exact hlines.map _
  joined := by
    rw [joinedRows, joinedRows, hpairs, hpairs', List.filterMap_nil, List.filterMap_nil,
      List.mergeSort_nil]
  ledger_ids := by
    rw [← map_id_unnumbered_ledger, ht.ledger, map_unnumbered_entryRows, List.map_map]
    exact hentryIds
  statement_ids := by
    rw [← map_id_unnumbered_statements, ht.statements, map_unnumbered_lineRows, List.map_map]
    exact hlineIds

end Tables

/-! ### Imports in any order -/

namespace StagingRequest

def IsImport : StagingRequest → Prop
  | importEntries .. => True
  | importLines .. => True
  | _ => False

/-- The entries that a request stages. -/
def entries : StagingRequest → List LedgerEntry
  | importEntries entries _ => entries
  | _ => []

/-- The lines that a request stages. -/
def lines : StagingRequest → List StatementLine
  | importLines lines _ => lines
  | _ => []

end StagingRequest

namespace Staging

/-- Imports add up to the records that they stage, and make no pairs. -/
theorem exists_serveAll_imports {requests : List StagingRequest}
    (himports : ∀ request ∈ requests, request.IsImport) {t : Tables} {w : Window}
    {es : List LedgerEntry} {ls : List StatementLine} (ht : t.Holds w es ls) :
    ∃ u : Tables, serveAll ⟨some t⟩ requests = ⟨some u⟩ ∧ u.pairs = t.pairs ∧
      u.Holds w (es ++ requests.flatMap StagingRequest.entries)
        (ls ++ requests.flatMap StagingRequest.lines) := by
  induction requests generalizing t es ls with
  | nil => exact ⟨t, rfl, rfl, by simpa using ht⟩
  | cons request rest ih =>
      have hrest : ∀ request ∈ rest, request.IsImport := fun r hr =>
        himports r (List.mem_cons_of_mem _ hr)
      have hserve : serveAll ⟨some t⟩ (request :: rest) = serveAll (carriedOut t request) rest :=
        congrArg (serveAll · rest) (carriedOut_of_sound ht.sound request).2
      have hfirst := himports request List.mem_cons_self
      rw [hserve]
      cases request with
      | importEntries entries chunks =>
          have hstaged := ht.importEntries entries chunks
          rw [Tables.importEntries_eq] at hstaged
          obtain ⟨u, hall, hpairs, hu⟩ := ih hrest hstaged
          refine ⟨u, hall, hpairs, ?_⟩
          simpa [StagingRequest.entries, StagingRequest.lines] using hu
      | importLines lines chunks =>
          have hstaged := ht.importLines lines chunks
          rw [Tables.importLines_eq] at hstaged
          obtain ⟨u, hall, hpairs, hu⟩ := ih hrest hstaged
          refine ⟨u, hall, hpairs, ?_⟩
          simpa [StagingRequest.entries, StagingRequest.lines] using hu
      | prepare w => exact hfirst.elim
      | matchAmounts smallest largest buckets => exact hfirst.elim
      | discard => exact hfirst.elim
      | reopen => exact hfirst.elim

/-- The area after it is prepared, records are staged in it and their rows are matched. -/
def matchedAfter (s : Staging) (w : Window) (requests : List StagingRequest)
    (smallest largest : Amount) (buckets : Nat) : Staging :=
  ((s.prepare w).serveAll requests).serve (.matchAmounts smallest largest buckets)

/-- After imports and matching there are tables with the records that were staged. -/
theorem exists_tables_matchedAfter (s : Staging) (w : Window) {requests : List StagingRequest}
    (himports : ∀ request ∈ requests, request.IsImport) (smallest largest : Amount)
    (buckets : Nat) :
    ∃ t : Tables, t.pairs = [] ∧
      t.Holds w (requests.flatMap StagingRequest.entries) (requests.flatMap StagingRequest.lines) ∧
      (s.matchedAfter w requests smallest largest buckets).tables
        = some (t.matchAmounts smallest largest buckets).2 := by
  obtain ⟨t, hserve, hpairs, ht⟩ := exists_serveAll_imports himports (Tables.Holds.fresh w)
  refine ⟨t, hpairs, ht, ?_⟩
  show (((s.prepare w).serveAll requests).matchAmounts smallest largest buckets).2.tables = _
  rw [show (s.prepare w).serveAll requests = ⟨some t⟩ from hserve]
  rfl

/-- Areas that report the same lists, and count the same if both can add up the amounts. -/
structure ReportsAlike (s u : Staging) : Prop where
  matched : ∃ rows, s.matched = .ok rows ∧ u.matched = .ok rows
  openEntries : ∃ entries, s.openEntries = .ok entries ∧ u.openEntries = .ok entries
  openLines : ∃ lines, s.openLines = .ok lines ∧ u.openLines = .ok lines
  counts : ∀ summary summary', s.summary = .ok summary → u.summary = .ok summary' →
    summary.SameCounts summary'
  refused : ∀ failure, s.summary = .error failure ∨ u.summary = .error failure →
    ∃ term, failure = .sum term

theorem reportsAlike_of_alike {t u : Tables} {w w' : Window} {entries entries' : List LedgerEntry}
    {lines lines' : List StatementLine} (h : t.Alike u) (ht : t.Holds w entries lines)
    (hu : u.Holds w' entries' lines') : ReportsAlike ⟨some t⟩ ⟨some u⟩ := by
  obtain ⟨⟨matched, hmatched⟩, ⟨openEntries, hopenEntries⟩, ⟨openLines, hopenLines⟩⟩ :=
    ht.exists_lists
  exact
    { matched := ⟨matched, hmatched, (h.matched_eq ht.sound).symm.trans hmatched⟩
      openEntries := ⟨openEntries, hopenEntries,
        (h.openEntries_eq ht.sound hu.sound).symm.trans hopenEntries⟩
      openLines := ⟨openLines, hopenLines,
        (h.openLines_eq ht.sound hu.sound).symm.trans hopenLines⟩
      counts := fun _ _ hsummary hsummary' => h.sameCounts ht.sound hu.sound hsummary hsummary'
      refused := fun failure hfails => by
        rcases hfails with hfails | hfails
        · exact (ht.sound.summary_eq_error hfails).1
        · exact (hu.sound.summary_eq_error hfails).1 }

/-- However the same records are split into imports and in whichever order they are staged, matching
from the same smallest amount on makes the areas report the same lists and counts, if no two records
of a side share their identifier. A summary can only be refused for its sums, and it is not if the
amounts have few decimals and are not too large together. -/
theorem reports_same_for_any_import_order (s s' : Staging) (w : Window)
    {requests requests' : List StagingRequest}
    (himports : ∀ request ∈ requests, request.IsImport)
    (himports' : ∀ request ∈ requests', request.IsImport)
    (hentries : (requests.flatMap StagingRequest.entries).Perm
      (requests'.flatMap StagingRequest.entries))
    (hlines : (requests.flatMap StagingRequest.lines).Perm (requests'.flatMap StagingRequest.lines))
    (hentryIds : ((requests.flatMap StagingRequest.entries).map LedgerEntry.id).Nodup)
    (hlineIds : ((requests.flatMap StagingRequest.lines).map StatementLine.id).Nodup)
    (smallest largest largest' : Amount) {buckets buckets' : Nat} (hbuckets : buckets < wordLimit)
    (hbuckets' : buckets' < wordLimit) :
    (s.matchedAfter w requests smallest largest buckets).ReportsAlike
        (s'.matchedAfter w requests' smallest largest' buckets') ∧
      ∀ places, Amount.FitTogether places
          ((requests.flatMap StagingRequest.entries).map fun e => e.amount.units) →
        ∃ summary summary',
          (s.matchedAfter w requests smallest largest buckets).summary = .ok summary ∧
          (s'.matchedAfter w requests' smallest largest' buckets').summary = .ok summary' := by
  obtain ⟨t, hpairs, ht, htables⟩ :=
    exists_tables_matchedAfter s w himports smallest largest buckets
  obtain ⟨u, hpairs', hu, htables'⟩ :=
    exists_tables_matchedAfter s' w himports' smallest largest' buckets'
  have halike := (ht.alike hu hpairs hpairs' hentries hlines hentryIds hlineIds).matchAmounts
    ht.sound hu.sound smallest largest largest' (Nat.le_of_lt hbuckets) (Nat.le_of_lt hbuckets')
  replace ht := (ht.matchAmounts smallest largest buckets).2
  replace hu := (hu.matchAmounts smallest largest' buckets').2
  rw [eq_of_tables_some htables, eq_of_tables_some htables']
  refine ⟨reportsAlike_of_alike halike ht hu, fun places hfit => ?_⟩
  obtain ⟨summary, hsummary⟩ := ht.exists_summary_of_fitTogether hfit
  obtain ⟨summary', hsummary'⟩ := hu.exists_summary_of_fitTogether (hfit.perm (hentries.map _))
  exact ⟨summary, summary', hsummary, hsummary'⟩

/-- Two entries and two lines that could all be matched with each other. -/
def oneWay : List StagingRequest :=
  [.importEntries [twinEntry, { twinEntry with id := "T" }] 1,
    .importLines [twinLine, { twinLine with id := "C" }] 2]

/-- The same records, each in an import of its own and in another order. -/
def otherWay : List StagingRequest :=
  [.importLines [{ twinLine with id := "C" }] 1, .importEntries [{ twinEntry with id := "T" }] 1,
    .importLines [twinLine] 4, .importEntries [twinEntry] 1]

theorem oneWay_reports_same_as_otherWay :
    (∀ request ∈ oneWay, request.IsImport) ∧ (∀ request ∈ otherWay, request.IsImport) ∧
      (oneWay.flatMap StagingRequest.entries).Perm (otherWay.flatMap StagingRequest.entries) ∧
      (oneWay.flatMap StagingRequest.lines).Perm (otherWay.flatMap StagingRequest.lines) ∧
      ((oneWay.flatMap StagingRequest.entries).map LedgerEntry.id).Nodup ∧
      ((oneWay.flatMap StagingRequest.lines).map StatementLine.id).Nodup ∧
      (empty.matchedAfter twinWindow oneWay .zero .zero 1).ReportsAlike
        (leftovers.matchedAfter twinWindow otherWay .zero twinEntry.amount 3) ∧
      ∃ summary summary',
        (empty.matchedAfter twinWindow oneWay .zero .zero 1).summary = .ok summary ∧
        (leftovers.matchedAfter twinWindow otherWay .zero twinEntry.amount 3).summary
          = .ok summary' := by
  have himports : ∀ request ∈ oneWay, request.IsImport := by
    simp [oneWay, StagingRequest.IsImport]
  have himports' : ∀ request ∈ otherWay, request.IsImport := by
    simp [otherWay, StagingRequest.IsImport]
  have hentries : (oneWay.flatMap StagingRequest.entries).Perm
      (otherWay.flatMap StagingRequest.entries) := List.Perm.swap _ _ []
  have hlines : (oneWay.flatMap StagingRequest.lines).Perm
      (otherWay.flatMap StagingRequest.lines) := List.Perm.swap _ _ []
  have hentryIds : ((oneWay.flatMap StagingRequest.entries).map LedgerEntry.id).Nodup := by decide
  have hlineIds : ((oneWay.flatMap StagingRequest.lines).map StatementLine.id).Nodup := by decide
  have hfit : Amount.FitTogether 8
      ((oneWay.flatMap StagingRequest.entries).map fun e => e.amount.units) :=
    ⟨by decide, by decide +kernel, by decide +kernel⟩
  obtain ⟨halike, hsummaries⟩ := reports_same_for_any_import_order empty leftovers twinWindow
    himports himports' hentries hlines hentryIds hlineIds .zero .zero twinEntry.amount
    (by decide : 1 < wordLimit) (by decide : 3 < wordLimit)
  exact ⟨himports, himports', hentries, hlines, hentryIds, hlineIds, halike, hsummaries 8 hfit⟩

/-- An entry that leaves room for two more below the largest amount. -/
def largeEntry : LedgerEntry :=
  { twinEntry with
    id := "D"
    amount := ⟨⟨mantissaLimit - 3, 0, by decide, Magnitude.zero.scale_le⟩, false⟩ }

/-- Entries that make up two, if nothing is rounded. -/
def smallEntries : List LedgerEntry :=
  [{ twinEntry with id := "A", amount := tenths 6 (by decide) },
    { twinEntry with id := "B", amount := tenths 6 (by decide) },
    { twinEntry with id := "C", amount := tenths 8 (by decide) }]

def smallFirst : List StagingRequest := [.importEntries (smallEntries ++ [largeEntry]) 1]

def largeFirst : List StagingRequest := [.importEntries (largeEntry :: smallEntries) 1]

/-- Without lines there is nothing to match. -/
theorem matchedAfter_of_no_lines (s : Staging) (w : Window) {requests : List StagingRequest}
    (himports : ∀ request ∈ requests, request.IsImport)
    (hnone : requests.flatMap StagingRequest.lines = []) (smallest largest : Amount)
    (buckets : Nat) :
    s.matchedAfter w requests smallest largest buckets = (s.prepare w).serveAll requests := by
  obtain ⟨t, hserve, -, ht⟩ := exists_serveAll_imports himports (Tables.Holds.fresh w)
  have hstatements : t.statements = [] := by
    rw [ht.statements, hnone]
    rfl
  have hdone : t.Exhausted := by
    intro l _ r hr
    have hmem := Tables.mem_statements_of_mem_openStatements hr
    rw [hstatements] at hmem
    cases hmem
  show ((s.prepare w).serveAll requests).serve (.matchAmounts smallest largest buckets) = _
  rw [show (s.prepare w).serveAll requests = ⟨some t⟩ from hserve]
  show (update ⟨some t⟩ fun t => t.matchAmounts smallest largest buckets).2 = _
  rw [update_some, ht.sound.matchAmounts_of_exhausted hdone]

/-- Whether there is a summary can depend on the order of the imports: a large amount swallows the
decimals of those that follow it, and is rounded up by each. -/
theorem summary_not_same_for_any_import_order :
    ¬ ∀ (s s' : Staging) (w : Window) (requests requests' : List StagingRequest)
      (smallest largest : Amount) (buckets buckets' : Nat),
      (∀ request ∈ requests, request.IsImport) → (∀ request ∈ requests', request.IsImport) →
      (requests.flatMap StagingRequest.entries).Perm (requests'.flatMap StagingRequest.entries) →
      (requests.flatMap StagingRequest.lines).Perm (requests'.flatMap StagingRequest.lines) →
      ((requests.flatMap StagingRequest.entries).map LedgerEntry.id).Nodup →
      ((requests.flatMap StagingRequest.lines).map StatementLine.id).Nodup →
      ∀ summary, (s.matchedAfter w requests smallest largest buckets).summary = .ok summary →
        ∃ summary', (s'.matchedAfter w requests' smallest largest buckets').summary = .ok summary' ∧
          summary.SameCounts summary' := by
  intro hclaim
  have himports : ∀ request ∈ smallFirst, request.IsImport := by
    simp [smallFirst, StagingRequest.IsImport]
  have himports' : ∀ request ∈ largeFirst, request.IsImport := by
    simp [largeFirst, StagingRequest.IsImport]
  have hgiven : (empty.matchedAfter twinWindow smallFirst .zero .zero 1).summary.isOk = true := by
    rw [matchedAfter_of_no_lines _ _ himports rfl]
    decide +kernel
  have hrefused : (empty.matchedAfter twinWindow largeFirst .zero .zero 1).summary.isOk = false := by
    rw [matchedAfter_of_no_lines _ _ himports' rfl]
    decide +kernel
  cases hsummary : (empty.matchedAfter twinWindow smallFirst .zero .zero 1).summary with
  | error failure =>
      rw [hsummary] at hgiven
      cases hgiven
  | ok summary =>
      have hperm : (smallFirst.flatMap StagingRequest.entries).Perm
          (largeFirst.flatMap StagingRequest.entries) :=
        List.perm_append_singleton largeEntry smallEntries
      obtain ⟨summary', hsummary', -⟩ := hclaim empty empty twinWindow smallFirst largeFirst .zero
        .zero 1 1 himports himports' hperm (.refl []) (by decide) List.nodup_nil summary hsummary
      rw [hsummary'] at hrefused
      cases hrefused

end Staging

end LedgerMatch
