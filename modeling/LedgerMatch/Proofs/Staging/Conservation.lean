import LedgerMatch.Proofs.Intake
import LedgerMatch.Proofs.Staging.Chunks
import LedgerMatch.Proofs.Staging.Counts
import LedgerMatch.Proofs.Staging.MatchedAmounts
import LedgerMatch.Proofs.Window
import Mathlib.Data.List.Perm.Basic

/-!
# Nothing is lost in the staging area

A record is staged as texts and a reported row is read back from them. Reading gives back what was
staged, every row of a record inside the window is in scope, and every row in scope is joined or
open. So the records that intake keeps are, side by side and each as often as it was kept, the
matched rows together with the rows left over.
-/

namespace LedgerMatch

/-! ### Sides of rows -/

/-- What is reported of a ledger entry. An amount counts by its value and its decimals. -/
structure LedgerSide where
  id : String
  time : Timestamp
  direction : Direction
  units : Int
  scale : Nat
  deriving DecidableEq

/-- What is reported of a statement line. -/
structure StatementSide where
  id : String
  date : Date
  bank : String
  units : Int
  scale : Nat
  deriving DecidableEq

def LedgerSide.of (id : String) (time : Timestamp) (direction : Direction) (amount : Amount) :
    LedgerSide :=
  ⟨id, time, direction, amount.units, amount.scale⟩

def StatementSide.of (id : String) (date : Date) (bank : String) (amount : Amount) :
    StatementSide :=
  ⟨id, date, bank, amount.units, amount.scale⟩

def LedgerEntry.side (e : LedgerEntry) : LedgerSide := .of e.id e.time e.direction e.amount

def StatementLine.side (l : StatementLine) : StatementSide := .of l.id l.date l.bank l.amount

def MatchedRow.ledgerSide (r : MatchedRow) : LedgerSide :=
  .of r.ledgerId r.time r.direction r.ledgerAmount

def MatchedRow.statementSide (r : MatchedRow) : StatementSide :=
  .of r.statementId r.date r.bank r.statementAmount

def OpenEntry.side (r : OpenEntry) : LedgerSide := .of r.id r.time r.direction r.amount

def OpenLine.side (r : OpenLine) : StatementSide := .of r.id r.date r.bank r.amount

/-! ### Reading rows back -/

/-- The side of a staged entry, as far as its texts can be read. -/
def LedgerRow.side? (r : LedgerRow) : Except Failure LedgerSide := do
  let time ← stagedTime r.time
  let amount ← stagedAmount r.amount
  pure (.of r.id time r.direction amount)

/-- The side of a staged line, as far as its texts can be read. -/
def StatementRow.side? (r : StatementRow) : Except Failure StatementSide := do
  let date ← stagedDate r.date
  let amount ← stagedAmount r.amount
  pure (.of r.id date r.bank amount)

theorem Amount.units_plainForm (a : Amount) : a.plainForm.units = a.units := by
  by_cases hzero : a.mantissa = 0
  · have hunits : ∀ b : Amount, b.mantissa = 0 → b.units = 0 := by
      intro b hb
      rw [units, hb, Nat.zero_mul]
      cases b.negative <;> rfl
    rw [hunits a hzero, hunits a.plainForm hzero]
  · rw [plainForm_of_isPlain fun _ => hzero]

theorem stagedDate_text (d : Date) : stagedDate d.text = .ok d := by
  rw [stagedDate, Date.text, String.toList_ofList, Date.read_chars]
  rfl

theorem stagedTime_text {t : Timestamp} (hwhole : t.billionths = 0) : stagedTime t.text = .ok t := by
  rw [stagedTime, Timestamp.text, String.toList_ofList, Timestamp.read_secondChars hwhole]
  rfl

namespace Tables

/-! ### Rows of records -/

/-- The rows of an entry and a line are read as what was staged. -/
theorem readMatched_ofRecords {e : LedgerEntry} (hwhole : e.time.billionths = 0)
    (l : StatementLine) (i j : Nat) :
    readMatched (.ofEntry i e, .ofLine j l)
      = .ok ⟨e.id, l.id, e.time, l.date, e.direction, l.bank, e.amount.plainForm,
          l.amount.plainForm⟩ := by
  have htime : stagedTime (LedgerRow.ofEntry i e).time = .ok e.time := stagedTime_text hwhole
  have hdate : stagedDate (StatementRow.ofLine j l).date = .ok l.date := stagedDate_text l.date
  have hledger : stagedAmount (LedgerRow.ofEntry i e).amount = .ok e.amount.plainForm :=
    Amount.stagedAmount_text e.amount
  have hstatement : stagedAmount (StatementRow.ofLine j l).amount = .ok l.amount.plainForm :=
    Amount.stagedAmount_text l.amount
  rw [readMatched, htime, hdate, hledger, hstatement]
  rfl

theorem readOpenEntry_ofEntry {e : LedgerEntry} (hwhole : e.time.billionths = 0) (number : Nat) :
    readOpenEntry (.ofEntry number e) = .ok ⟨e.id, e.time, e.direction, e.amount.plainForm⟩ := by
  have htime : stagedTime (LedgerRow.ofEntry number e).time = .ok e.time := stagedTime_text hwhole
  have hamount : stagedAmount (LedgerRow.ofEntry number e).amount = .ok e.amount.plainForm :=
    Amount.stagedAmount_text e.amount
  rw [readOpenEntry, htime, hamount]
  rfl

theorem readOpenLine_ofLine (l : StatementLine) (number : Nat) :
    readOpenLine (.ofLine number l) = .ok ⟨l.id, l.date, l.bank, l.direction,
      l.amount.plainForm⟩ := by
  have hdate : stagedDate (StatementRow.ofLine number l).date = .ok l.date := stagedDate_text l.date
  have hamount : stagedAmount (StatementRow.ofLine number l).amount = .ok l.amount.plainForm :=
    Amount.stagedAmount_text l.amount
  rw [readOpenLine, hdate, hamount]
  rfl

/-! ### Sides of rows that are read -/

/-- A matched row has the sides of the two rows that it is read from. -/
theorem side?_of_readMatched {row : LedgerRow × StatementRow} {m : MatchedRow}
    (h : readMatched row = .ok m) :
    row.1.side? = .ok m.ledgerSide ∧ row.2.side? = .ok m.statementSide := by
  rw [readMatched] at h
  obtain ⟨time, htime, h⟩ := bind_eq_ok.1 h
  obtain ⟨date, hdate, h⟩ := bind_eq_ok.1 h
  obtain ⟨ledgerAmount, hledger, h⟩ := bind_eq_ok.1 h
  obtain ⟨statementAmount, hstatement, h⟩ := bind_eq_ok.1 h
  cases h
  constructor
  · rw [LedgerRow.side?, htime, hledger]
    rfl
  · rw [StatementRow.side?, hdate, hstatement]
    rfl

theorem side?_of_readOpenEntry {r : LedgerRow} {e : OpenEntry} (h : readOpenEntry r = .ok e) :
    r.side? = .ok e.side := by
  rw [readOpenEntry] at h
  obtain ⟨time, htime, h⟩ := bind_eq_ok.1 h
  obtain ⟨amount, hamount, h⟩ := bind_eq_ok.1 h
  cases h
  rw [LedgerRow.side?, htime, hamount]
  rfl

theorem side?_of_readOpenLine {r : StatementRow} {l : OpenLine} (h : readOpenLine r = .ok l) :
    r.side? = .ok l.side := by
  rw [readOpenLine] at h
  obtain ⟨date, hdate, h⟩ := bind_eq_ok.1 h
  obtain ⟨amount, hamount, h⟩ := bind_eq_ok.1 h
  cases h
  rw [StatementRow.side?, hdate, hamount]
  rfl

theorem side?_ofEntry {e : LedgerEntry} (hwhole : e.time.billionths = 0) (number : Nat) :
    (LedgerRow.ofEntry number e).side? = .ok e.side := by
  rw [side?_of_readOpenEntry (readOpenEntry_ofEntry hwhole number), OpenEntry.side, LedgerSide.of,
    Amount.units_plainForm]
  rfl

theorem side?_ofLine (l : StatementLine) (number : Nat) :
    (StatementRow.ofLine number l).side? = .ok l.side := by
  rw [side?_of_readOpenLine (readOpenLine_ofLine l number), OpenLine.side, StatementSide.of,
    Amount.units_plainForm]
  rfl

/-- Rows that can be read, split in two lists, are read as the two lists of what was read. -/
theorem perm_of_readable {ρ γ : Type} {read : ρ → Except Failure γ} {left right rows : List ρ}
    {as bs cs : List γ} (hrows : (left ++ right).Perm rows) (hleft : left.map read = as.map .ok)
    (hright : right.map read = bs.map .ok) (hall : rows.map read = cs.map .ok) :
    (as ++ bs).Perm cs := by
  have hread := hrows.map read
  rw [List.map_append, hleft, hright, hall, ← List.map_append] at hread
  have hinjective : Function.Injective (Except.ok : γ → Except Failure γ) :=
    fun _ _ => Except.ok.inj
  exact (List.map_perm_map_iff hinjective).1 hread

/-- The places of the elements that are kept are left out again. -/
theorem map_fst_filter_zipIdx {α : Type} (as : List α) (p : α → Bool) :
    (as.zipIdx.filter fun a => p a.1).map Prod.fst = as.filter p := by
  conv_rhs => rw [← List.zipIdx_map_fst 0 as, List.filter_map]
  rfl

/-! ### Tables with given records -/

/-- Sound tables for a window whose rows are those of entries and lines. -/
structure Holds (t : Tables) (w : Window) (entries : List LedgerEntry)
    (lines : List StatementLine) : Prop where
  sound : t.Sound
  scope : t.scope = .ofWindow w
  ledger : t.ledger = entryRows 0 entries
  statements : t.statements = lineRows 0 lines

namespace Holds

variable {t : Tables} {w : Window} {entries : List LedgerEntry} {lines : List StatementLine}

theorem fresh (w : Window) : (Tables.fresh w).Holds w [] [] :=
  ⟨fresh_sound w, rfl, rfl, rfl⟩

/-- Entries are held behind those staged before. -/
theorem importEntries (h : t.Holds w entries lines) (es : List LedgerEntry) (chunks : Nat) :
    (t.importEntries es chunks).2.Holds w (entries ++ es) lines := by
  have hsound := (importEntries_sound h.sound es chunks).1
  rw [importEntries_eq] at hsound ⊢
  refine ⟨hsound, h.scope, ?_, h.statements⟩
  show t.ledger ++ entryRows t.ledger.length es = entryRows 0 (entries ++ es)
  rw [h.ledger, length_entryRows, entryRows_append, Nat.zero_add]

/-- Lines are held behind those staged before. -/
theorem importLines (h : t.Holds w entries lines) (ls : List StatementLine) (chunks : Nat) :
    (t.importLines ls chunks).2.Holds w entries (lines ++ ls) := by
  have hsound := (importLines_sound h.sound ls chunks).1
  rw [importLines_eq] at hsound ⊢
  refine ⟨hsound, h.scope, h.ledger, ?_⟩
  show t.statements ++ lineRows t.statements.length ls = lineRows 0 (lines ++ ls)
  rw [h.statements, length_lineRows, lineRows_append, Nat.zero_add]

/-- Matching succeeds and changes no rows. -/
theorem matchAmounts (h : t.Holds w entries lines) (smallest largest : Amount) (buckets : Nat) :
    (t.matchAmounts smallest largest buckets).1 = .ok () ∧
      (t.matchAmounts smallest largest buckets).2.Holds w entries lines := by
  have hsound := (matchAmounts_sound h.sound smallest largest buckets).1
  obtain ⟨added, hadded⟩ := h.sound.exists_sequence_matchBucket
    (amountBuckets smallest.real largest.real buckets)
  have hmatch : t.matchAmounts smallest largest buckets
      = (.ok (), { t with pairs := t.pairs ++ added }) := hadded
  rw [hmatch] at hsound ⊢
  exact ⟨rfl, hsound, h.scope, h.ledger, h.statements⟩

/-- The lines left over are of the banks of lines that were staged. -/
theorem exists_line_of_mem_openLines (h : t.Holds w entries lines) {openLines : List OpenLine}
    (hlines : t.openLines = .ok openLines) {l : OpenLine} (hl : l ∈ openLines) :
    ∃ line ∈ lines, l.bank = line.bank := by
  obtain ⟨r, hr, hbank⟩ := exists_row_of_mem_openLines hlines hl
  rw [h.statements] at hr
  obtain ⟨line, hline, rfl⟩ := List.mem_map.1 hr
  exact ⟨line.1, List.fst_mem_of_mem_zipIdx hline, hbank⟩

/-! ### Rows in scope -/

section

variable (h : t.Holds w entries lines)

include h

/-- The ledger rows in scope are those of the entries in scope. -/
theorem scopedLedger_eq :
    t.scopedLedger = (entries.zipIdx.filter fun e => (StagingScope.ofWindow w).hasEntry e.1).map
      fun e => LedgerRow.ofEntry (0 + 1 + e.2) e.1 := by
  rw [scopedLedger, h.ledger, h.scope, entryRows, List.filter_map]
  rfl

/-- The statement rows in scope are those of the lines in scope. -/
theorem scopedStatements_eq :
    t.scopedStatements = (lines.zipIdx.filter fun l => (StagingScope.ofWindow w).hasLine l.1).map
      fun l => StatementRow.ofLine (0 + 1 + l.2) l.1 := by
  rw [scopedStatements, h.statements, h.scope, lineRows, List.filter_map]
  rfl

theorem length_scopedLedger :
    t.scopedLedger.length = (entries.filter (StagingScope.ofWindow w).hasEntry).length := by
  rw [h.scopedLedger_eq, List.length_map, ← map_fst_filter_zipIdx entries, List.length_map]

theorem length_scopedStatements :
    t.scopedStatements.length = (lines.filter (StagingScope.ofWindow w).hasLine).length := by
  rw [h.scopedStatements_eq, List.length_map, ← map_fst_filter_zipIdx lines, List.length_map]

theorem map_side?_scopedLedger (hwhole : ∀ e ∈ entries, e.time.billionths = 0) :
    t.scopedLedger.map LedgerRow.side?
      = ((entries.filter (StagingScope.ofWindow w).hasEntry).map LedgerEntry.side).map Except.ok := by
  rw [h.scopedLedger_eq, ← map_fst_filter_zipIdx entries, List.map_map, List.map_map, List.map_map]
  refine List.map_congr_left fun e he => ?_
  have hmem := List.fst_mem_of_mem_zipIdx (List.mem_filter.1 he).1
  exact side?_ofEntry (hwhole e.1 hmem) _

theorem map_side?_scopedStatements :
    t.scopedStatements.map StatementRow.side?
      = ((lines.filter (StagingScope.ofWindow w).hasLine).map StatementLine.side).map Except.ok := by
  rw [h.scopedStatements_eq, ← map_fst_filter_zipIdx lines, List.map_map, List.map_map, List.map_map]
  exact List.map_congr_left fun l _ => side?_ofLine l.1 _

/-! ### What is reported -/

/-- The ledger sides of the matched rows and the entries left over are the entries in scope. -/
theorem ledger_conserved (hwhole : ∀ e ∈ entries, e.time.billionths = 0)
    {matched : List MatchedRow} {openEntries : List OpenEntry} (hmatched : t.matched = .ok matched)
    (hentries : t.openEntries = .ok openEntries) :
    (matched.map MatchedRow.ledgerSide ++ openEntries.map OpenEntry.side).Perm
      ((entries.filter (StagingScope.ofWindow w).hasEntry).map LedgerEntry.side) := by
  have hsorted := (List.mergeSort_perm t.openLedger LedgerRow.le).append_left
    (t.joinedRows.map Prod.fst)
  refine perm_of_readable (hsorted.trans h.sound.ledger_perm) ?_ ?_
    (h.map_side?_scopedLedger hwhole)
  · rw [List.map_map, List.map_map]
    exact map_eq_of_mapM (fun _ _ hread => (side?_of_readMatched hread).1) hmatched
  · rw [List.map_map]
    exact map_eq_of_mapM (fun _ _ hread => side?_of_readOpenEntry hread) hentries

/-- The statement sides of the matched rows and the lines left over are the lines in scope. -/
theorem statements_conserved {matched : List MatchedRow} {openLines : List OpenLine}
    (hmatched : t.matched = .ok matched) (hlines : t.openLines = .ok openLines) :
    (matched.map MatchedRow.statementSide ++ openLines.map OpenLine.side).Perm
      ((lines.filter (StagingScope.ofWindow w).hasLine).map StatementLine.side) := by
  have hsorted := (List.mergeSort_perm t.openStatements bankLe).append_left
    (t.joinedRows.map Prod.snd)
  refine perm_of_readable (hsorted.trans h.sound.statements_perm) ?_ ?_
    h.map_side?_scopedStatements
  · rw [List.map_map, List.map_map]
    exact map_eq_of_mapM (fun _ _ hread => (side?_of_readMatched hread).2) hmatched
  · rw [List.map_map]
    exact map_eq_of_mapM (fun _ _ hread => side?_of_readOpenLine hread) hlines

/-- A summary counts the records in scope. -/
theorem summary_counts {summary : Summary} (hsummary : t.summary = .ok summary) :
    summary.ledgerCount = (entries.filter (StagingScope.ofWindow w).hasEntry).length ∧
      summary.statementCount = (lines.filter (StagingScope.ofWindow w).hasLine).length := by
  obtain ⟨hledger, -, -, hstatements, -⟩ := h.sound.summary_counts hsummary
  rw [hledger, hstatements, h.length_scopedLedger, h.length_scopedStatements]
  exact ⟨rfl, rfl⟩

end

end Holds

end Tables

/-! ### Records inside a window -/

namespace Window.HasPlainYears

variable {w : Window} {records : Intake} (hw : w.HasPlainYears) (hrecords : records.Fits w)

include hw hrecords

/-- What intake keeps is in scope. -/
theorem filter_hasEntry :
    records.entries.filter (StagingScope.ofWindow w).hasEntry = records.entries :=
  List.filter_eq_self.2 fun e he => by rw [hw.hasEntry_eq, hrecords.keepsEntry e he]

theorem filter_hasLine :
    records.lines.filter (StagingScope.ofWindow w).hasLine = records.lines :=
  List.filter_eq_self.2 fun l hl => by rw [hw.hasLine_eq, hrecords.keepsLine l hl]

end Window.HasPlainYears

end LedgerMatch
