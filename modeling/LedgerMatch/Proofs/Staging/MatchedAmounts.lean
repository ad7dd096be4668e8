import LedgerMatch.Proofs.Amount.Text
import LedgerMatch.Proofs.Staging.Chunks
import LedgerMatch.Proofs.Staging.Pairs
import LedgerMatch.Proofs.Staging.Queries

/-!
# Amounts of matched rows

Rows are matched by the double precision numbers they hold. The amounts of a matched row are those
that were staged, so they have one number, and any two amounts with one number can be matched. Large
amounts that differ can have one number.
-/

namespace LedgerMatch

-- Powers of whole numbers are the core ones, whatever else is imported.
attribute [local instance (2000)] instPowNat

-- The two large constants are never evaluated.
attribute [local irreducible] Binary64.one Binary64.limit

/-! ### Amounts read back -/

namespace Amount

theorem stagedAmount_text (a : Amount) : stagedAmount a.text = .ok a.plainForm := by
  rw [stagedAmount, ofText_text]
  rfl

theorem realMagnitude_of_zero {m : Magnitude} (h : m.mantissa = 0) :
    realMagnitude m = Binary64.zero false := by
  have hzero : Binary64.ofNat 0 = Binary64.zero false := by
    have hround : Binary64.roundSteps (0 * Binary64.one) 1 = 0 := by
      rw [Nat.zero_mul, Binary64.roundSteps_zero]
    rw [Binary64.ofNat, Binary64.ofFraction, Binary64.ofSteps]
    simp only [hround, Binary64.limit_pos, dif_pos]
    rfl
  rw [realMagnitude]
  split
  · rw [h, hzero]
  · simp [h, hzero]

/-- A zero has one number with and without a sign. -/
theorem staged_plainForm (a : Amount) : a.plainForm.staged = a.staged := by
  by_cases h : a.mantissa = 0
  · have hreal : ∀ b : Amount, b.toMagnitude = a.toMagnitude →
        b.staged = Binary64.zero false := by
      intro b hb
      rw [staged, real, hb, realMagnitude_of_zero h]
      split <;> rfl
    rw [hreal a.plainForm rfl, hreal a rfl]
  · rw [plainForm_of_isPlain fun _ => h]

end Amount

/-! ### Joined rows -/

namespace Tables

variable {t : Tables} {l : LedgerRow} {r : StatementRow}

/-- A matched row has the amounts of joined rows, as they are read back. -/
theorem amounts_of_readMatched {row : MatchedRow} (h : readMatched (l, r) = .ok row) :
    stagedAmount l.amount = .ok row.ledgerAmount ∧
      stagedAmount r.amount = .ok row.statementAmount := by
  rw [readMatched] at h
  obtain ⟨time, -, h⟩ := bind_eq_ok.1 h
  obtain ⟨date, -, h⟩ := bind_eq_ok.1 h
  obtain ⟨a, ha, h⟩ := bind_eq_ok.1 h
  obtain ⟨b, hb, h⟩ := bind_eq_ok.1 h
  cases h
  exact ⟨ha, hb⟩

/-- The amounts of a matched row of sound tables have one size as numbers. -/
theorem Sound.staged_eq_of_matched (h : t.Sound) {rows : List MatchedRow}
    (hmatched : t.matched = .ok rows) {row : MatchedRow} (hrow : row ∈ rows) :
    row.ledgerAmount.IsPlain ∧ row.statementAmount.IsPlain ∧
      isFinite row.ledgerAmount.staged = true ∧
      row.ledgerAmount.staged = row.statementAmount.staged.abs := by
  obtain ⟨⟨l, r⟩, hjoined, hread⟩ := exists_of_mem_mapM hmatched hrow
  obtain ⟨hledger, hstatement⟩ := amounts_of_readMatched hread
  obtain ⟨hl, hr, -⟩ := exists_pair_of_mem_joinedRows hjoined
  obtain ⟨hfinite, e, hle⟩ := h.ledger_rows l (List.mem_filter.1 hl).1
  obtain ⟨-, line, hrl⟩ := h.statement_rows r (List.mem_filter.1 hr).1
  -- the rows hold the numbers of the amounts read back
  have hlamount : row.ledgerAmount = e.amount.plainForm := by
    rw [hle] at hledger
    exact Except.ok.inj (hledger.symm.trans (Amount.stagedAmount_text e.amount))
  have hramount : row.statementAmount = line.amount.plainForm := by
    rw [hrl] at hstatement
    exact Except.ok.inj (hstatement.symm.trans (Amount.stagedAmount_text line.amount))
  have hlreal : l.real = e.amount.staged := by rw [hle]; rfl
  have hrsize : r.size = line.amount.staged.abs := by rw [hrl]; rfl
  have hnumbers : l.real = r.size :=
    congrArg MatchKey.amount (h.key_eq_of_mem_joinedRows hjoined)
  rw [hlamount, hramount, Amount.staged_plainForm, Amount.staged_plainForm, ← hlreal, ← hrsize]
  exact ⟨e.amount.isPlain_plainForm, line.amount.isPlain_plainForm, hfinite, hnumbers⟩

end Tables

/-! ### Two amounts that meet -/

namespace Staging

open Tables

def entryOf (a : Amount) : LedgerEntry := { twinEntry with amount := a }

def lineOf (b : Amount) : StatementLine := { twinLine with amount := b }

/-- The small area with the two amounts, before its rows are matched. -/
def apart (a b : Amount) : Staging :=
  ((empty.serve (.prepare twinWindow)).serve (.importEntries [entryOf a] 1)).serve
    (.importLines [lineOf b] 1)

/-- The small area with the two amounts. -/
def meeting (a b : Amount) : Staging := (apart a b).serve (.matchAmounts .zero .zero 1)

def apartTables (a b : Amount) : Tables where
  scope := .ofWindow twinWindow
  ledger := [.ofEntry 1 (entryOf a)]
  statements := [.ofLine 1 (lineOf b)]

def meetingRow (a b : Amount) : MatchedRow where
  ledgerId := "S"
  statementId := "B"
  time := .midnight twinDay
  date := twinDay
  direction := .credit
  bank := "BCA"
  ledgerAmount := a
  statementAmount := b

theorem apart_reachable (a b : Amount) : (apart a b).Reachable :=
  .serve _ (.serve _ (.serve _ .empty))

theorem meeting_reachable (a b : Amount) : (meeting a b).Reachable :=
  .serve _ (apart_reachable a b)

variable {a b : Amount}

theorem isFinite_of_abs {x : Binary64} (h : isFinite x.abs = true) : isFinite x = true := by
  cases x with
  | finite s n hn => rfl
  | infinite s => cases h
  | nan => cases h

/-- Without its sign, a number is at least that of a zero. -/
theorem real_le_abs {z : Amount} (hz : z.mantissa = 0) {x : Binary64} (h : isFinite x = true) :
    z.real.le x.abs = true := by
  obtain ⟨s, n, hn, rfl⟩ := isFinite_iff.1 h
  have hrank : z.real.rank? = some 0 := by
    rw [Amount.real, Amount.realMagnitude_of_zero hz]
    split <;> rfl
  exact (Binary64.le_iff hrank (Binary64.rank?_finite false n hn)).2 (Int.natCast_nonneg n)

theorem apart_tables (a b : Amount) : (apart a b).tables = some (apartTables a b) := by
  have hentries := importEntries_eq (fresh twinWindow) [entryOf a] 1
  have hlines := importLines_eq ((fresh twinWindow).withEntries [entryOf a]) [lineOf b] 1
  show (((Staging.mk (some (fresh twinWindow))).update _).2.update _).2.tables = _
  simp only [update, hentries, hlines]
  rfl

theorem scopedLedger_apartTables (a b : Amount) :
    (apartTables a b).scopedLedger = [.ofEntry 1 (entryOf a)] := by
  have hscope : (StagingScope.ofWindow twinWindow).hasDate twinDay.text = true := by
    decide +kernel
  exact List.filter_cons_of_pos hscope

theorem scopedStatements_apartTables (a b : Amount) :
    (apartTables a b).scopedStatements = [.ofLine 1 (lineOf b)] := by
  have hscope : ((StagingScope.ofWindow twinWindow).hasDate twinDay.text &&
      (StagingScope.ofWindow twinWindow).hasBank "BCA") = true := by
    decide +kernel
  exact List.filter_cons_of_pos hscope

theorem openLedger_apartTables (a b : Amount) :
    (apartTables a b).openLedger = [.ofEntry 1 (entryOf a)] := by
  rw [openLedger, scopedLedger_apartTables]
  rfl

theorem openStatements_apartTables (a b : Amount) :
    (apartTables a b).openStatements = [.ofLine 1 (lineOf b)] := by
  rw [openStatements, scopedStatements_apartTables]
  rfl

theorem matchRows_singleton {l : LedgerRow} {r : StatementRow} (h : l.key = r.key) :
    matchRows [l] [r] = [pairOf l r] := by
  simp [matchRows, rank, rankAfter, h, pairOf]

/-- Both rows are open, and they are one group. -/
theorem pairsFrom_apartTables (ha : isFinite a.staged = true) (h : a.staged = b.staged.abs) :
    (apartTables a b).pairsFrom Amount.zero.real = [⟨1, 1⟩] := by
  have hsize : Amount.zero.real.le b.staged.abs = true := real_le_abs rfl (isFinite_of_abs (h ▸ ha))
  have hreal : Amount.zero.real.le (LedgerRow.ofEntry 1 (entryOf a)).real = true := by
    show Amount.zero.real.le a.staged = true
    rw [h]
    exact hsize
  have hsize' : Amount.zero.real.le (StatementRow.ofLine 1 (lineOf b)).size = true := hsize
  have hkey : (LedgerRow.ofEntry 1 (entryOf a)).key = (StatementRow.ofLine 1 (lineOf b)).key := by
    show MatchKey.mk a.staged _ _ = MatchKey.mk b.staged.abs _ _
    rw [h]
    rfl
  simp only [pairsFrom, openLedger_apartTables, openStatements_apartTables, List.filter_cons, hreal,
    hsize', if_true, List.filter_nil]
  exact matchRows_singleton hkey

/-- The pair of the two rows is read back with the amounts of both. -/
theorem readMatched_meeting (a b : Amount) :
    readMatched (.ofEntry 1 (entryOf a), .ofLine 1 (lineOf b))
      = .ok (meetingRow a.plainForm b.plainForm) := by
  have htime : stagedTime twinEntry.time.text = .ok (.midnight twinDay) := by decide +kernel
  have hdate : stagedDate twinDay.text = .ok twinDay := by decide +kernel
  have hledger := Amount.stagedAmount_text a
  have hstatement := Amount.stagedAmount_text b
  exact bind_eq_ok.2 ⟨_, htime, bind_eq_ok.2 ⟨_, hdate, bind_eq_ok.2 ⟨_, hledger,
    bind_eq_ok.2 ⟨_, hstatement, rfl⟩⟩⟩⟩

/-- Two amounts with one number are matched. -/
theorem meeting_matched (ha : isFinite a.staged = true) (h : a.staged = b.staged.abs) :
    (meeting a b).matched = .ok [meetingRow a.plainForm b.plainForm] := by
  have htables := apart_tables a b
  obtain ⟨added, hperm, hmatch⟩ :=
    ((apart_reachable a b).sound _ htables).matchAmounts_eq .zero .zero (by decide : 1 ≤ wordLimit)
  rw [pairsFrom_apartTables ha h, List.perm_singleton] at hperm
  have hmeeting : meeting a b = ⟨some { apartTables a b with pairs := [⟨1, 1⟩] }⟩ := by
    show ((apart a b).update _).2 = _
    rw [update, htables]
    dsimp only
    rw [hmatch, hperm]
    rfl
  have hjoined : joinedRows { apartTables a b with pairs := [⟨1, 1⟩] }
      = [(.ofEntry 1 (entryOf a), .ofLine 1 (lineOf b))] := by
    have hl := scopedLedger_apartTables a b
    have hr := scopedStatements_apartTables a b
    have hjoin : joined? { apartTables a b with pairs := [⟨1, 1⟩] } ⟨1, 1⟩
        = some (.ofEntry 1 (entryOf a), .ofLine 1 (lineOf b)) := by
      rw [joined?]
      rw [show scopedLedger { apartTables a b with pairs := [⟨1, 1⟩] } = _ from hl,
        show scopedStatements { apartTables a b with pairs := [⟨1, 1⟩] } = _ from hr]
      rfl
    simp [joinedRows, hjoin]
  rw [hmeeting]
  show Tables.matched _ = _
  rw [Tables.matched, hjoined, List.mapM_cons, readMatched_meeting]
  rfl

/-! ### Which amounts are matched -/

/-- An entry and a line can be reported as matched if and only if their amounts have one size as
double precision numbers, which two amounts that differ can have. -/
theorem amounts_matched_iff {a b : Amount} :
    (∃ (s : Staging) (rows : List MatchedRow) (row : MatchedRow),
      s.Reachable ∧ s.matched = .ok rows ∧ row ∈ rows ∧
        row.ledgerAmount = a ∧ row.statementAmount = b) ↔
      a.IsPlain ∧ b.IsPlain ∧ isFinite a.staged = true ∧ a.staged = b.staged.abs := by
  constructor
  · rintro ⟨⟨tables⟩, rows, row, hreach, hmatched, hrow, rfl, rfl⟩
    cases tables with
    | none => cases hmatched
    | some t => exact (hreach.sound t rfl).staged_eq_of_matched hmatched hrow
  · rintro ⟨ha, hb, hfinite, h⟩
    refine ⟨meeting a b, _, _, meeting_reachable a b, meeting_matched hfinite h,
      List.mem_singleton_self _, ?_, ?_⟩
    · exact Amount.plainForm_of_isPlain ha
    · exact Amount.plainForm_of_isPlain hb

/-- The first whole number that has no double precision number of its own. -/
def largeAmount : Amount := ⟨⟨9007199254740993, 0, by decide, Magnitude.zero.scale_le⟩, false⟩

/-- The whole number that it is rounded to. -/
def largeSize : Amount := ⟨⟨9007199254740992, 0, by decide, Magnitude.zero.scale_le⟩, true⟩

/-- Matched rows need not have amounts of one size. -/
theorem matched_amounts_differ :
    ¬ ∀ (s : Staging) (rows : List MatchedRow) (row : MatchedRow),
      s.Reachable → s.matched = .ok rows → row ∈ rows →
        row.ledgerAmount.units = row.statementAmount.abs.units := by
  intro hclaim
  have hsame : largeAmount.staged = largeSize.staged.abs := by decide +kernel
  have hfinite : isFinite largeAmount.staged = true := by decide +kernel
  have hunits := hclaim _ _ _ (meeting_reachable largeAmount largeSize)
    (meeting_matched hfinite hsame) (List.mem_singleton_self _)
  exact absurd hunits (by decide)

end Staging

end LedgerMatch
