import LedgerMatch.Proofs.Report.Filing
import LedgerMatch.Proofs.Run
import LedgerMatch.Proofs.Run.Completed
import LedgerMatch.Proofs.Staging.Conservation

/-!
# Nothing is lost in a run

A run in the years 0 to 9999 that completes without a file left unwritten reports every record that
its intake kept, each as often as it was kept: a ledger entry as the ledger side of a matched row or
as an entry left over, a statement line as the statement side of a matched row or as a line left
over. All these rows are in the files that the run lists, each in one of them.
-/

namespace LedgerMatch

/-- What is reported is on both sides what was taken in, and is counted as such. -/
structure Conserves (records : Intake) (answers : Answers) : Prop where
  ledger : (answers.matched.map MatchedRow.ledgerSide ++ answers.openEntries.map OpenEntry.side).Perm
    (records.entries.map LedgerEntry.side)
  statements :
    (answers.matched.map MatchedRow.statementSide ++ answers.openLines.map OpenLine.side).Perm
      (records.lines.map StatementLine.side)
  ledger_count : answers.summary.ledgerCount = records.entries.length
  statement_count : answers.summary.statementCount = records.lines.length

namespace RunPlan

/-! ### Stage by stage -/

/-- What the staging area says to an action that succeeds. -/
theorem told_eq_ok {α σ φ : Type} {files : φ} {action : α → RunAction}
    {answer : Except Failure α × σ} {performed : RunAction} {v : σ × φ}
    (h : told files action answer = (.ok performed, v)) :
    ∃ x, answer.1 = .ok x ∧ action x = performed ∧ v = (answer.2, files) := by
  obtain ⟨result, area⟩ := answer
  cases result with
  | error failure => cases congrArg Prod.fst h
  | ok x =>
      cases congrArg Prod.fst h
      exact ⟨x, rfl, rfl, (congrArg Prod.snd h).symm⟩

/-- What the staging area tells where an action says it all. -/
theorem told_eq_ok_of_injective {α σ φ : Type} {files : φ} {action : α → RunAction}
    (hinjective : ∀ x y, action x = action y → x = y) {answer : Except Failure α × σ} {x : α}
    {v : σ × φ} (h : told files action answer = (.ok (action x), v)) :
    answer.1 = .ok x ∧ v = (answer.2, files) := by
  obtain ⟨y, hanswer, hsame, hv⟩ := told_eq_ok h
  rw [hinjective y x hsame] at hanswer
  exact ⟨hanswer, hv⟩

theorem performs_singleton {σ φ : Type} [StagingArea σ] [FileSystem φ] {plan : RunPlan}
    {action : RunAction} {u v : σ × φ} :
    plan.Performs [action] u v ↔ plan.perform action u = (.ok action, v) := by
  constructor
  · rintro ⟨x, hok, rfl⟩
    exact hok
  · intro hok
    exact ⟨v, hok, rfl⟩

variable {φ : Type}

/-- A place with the given files, and with tables for a window that hold entries and lines. -/
structure Stands (files : φ) (w : Window) (entries : List LedgerEntry)
    (lines : List StatementLine) (u : Staging × φ) : Prop where
  files_eq : u.2 = files
  holds : ∃ t, u.1.tables = some t ∧ t.Holds w entries lines

/-- A change of the tables that an action succeeds with. -/
theorem Stands.change {files : φ} {w : Window} {entries entries' : List LedgerEntry}
    {lines lines' : List StatementLine} {u v : Staging × φ} {action : Unit → RunAction}
    {performed : RunAction} {op : Tables → Except Failure Unit × Tables}
    (hu : Stands files w entries lines u)
    (h : told u.2 action (u.1.update op) = (.ok performed, v))
    (hop : ∀ t, t.Holds w entries lines → (op t).2.Holds w entries' lines') :
    Stands files w entries' lines' v := by
  obtain ⟨⟨tables⟩, files'⟩ := u
  obtain ⟨hfiles, t, rfl, hholds⟩ := hu
  obtain ⟨_, hok, -, rfl⟩ := told_eq_ok h
  rw [Staging.update_some] at hok ⊢
  exact ⟨hfiles, _, rfl, hop t hholds⟩

variable [FileSystem φ] {plan : RunPlan} {records : Intake} {answers : Answers} {files : φ}
  {u v : Staging × φ}

theorem stands_of_prepare (h : plan.Performs (plan.actions records answers .prepare) u v) :
    Stands u.2 plan.window [] [] v := by
  obtain ⟨-, -, -, rfl⟩ := told_eq_ok (performs_singleton.1 h)
  exact ⟨rfl, _, rfl, .fresh plan.window⟩

theorem input_of_intake (h : plan.Performs (plan.actions records answers .intake) u v) :
    v = u ∧ (plan.input plan.schedule u.2).1 = .ok records := by
  have hperform : ((plan.input plan.schedule u.2).1.map RunAction.read, u)
      = (.ok (.read records), v) := performs_singleton.1 h
  refine ⟨(congrArg Prod.snd hperform).symm, ?_⟩
  have hresult := congrArg Prod.fst hperform
  cases hinput : (plan.input plan.schedule u.2).1 with
  | error failure =>
      rw [hinput] at hresult
      cases hresult
  | ok records' =>
      rw [hinput] at hresult
      cases hresult
      rfl

theorem Stands.stageLedger (hu : Stands files plan.window [] [] u)
    (h : plan.Performs (plan.actions records answers .stageLedger) u v) :
    Stands files plan.window records.entries [] v := by
  dsimp only [actions] at h
  split at h
  · next hnone =>
      cases h
      rw [hnone]
      exact hu
  · next hsome =>
      have himport : StagingArea.importEntries u.1 records.entries plan.settings.workers
          = u.1.update fun t => t.importEntries records.entries plan.settings.workers :=
        if_neg hsome
      replace h := performs_singleton.1 h
      rw [perform, himport] at h
      exact hu.change h fun t hholds => hholds.importEntries records.entries _

theorem Stands.stageStatements {entries : List LedgerEntry}
    (hu : Stands files plan.window entries [] u)
    (h : plan.Performs (plan.actions records answers .stageStatements) u v) :
    Stands files plan.window entries records.lines v := by
  dsimp only [actions] at h
  split at h
  · next hnone =>
      cases h
      rw [hnone]
      exact hu
  · next hsome =>
      have himport : StagingArea.importLines u.1 records.lines (plan.settings.workers * 2)
          = u.1.update fun t => t.importLines records.lines (plan.settings.workers * 2) :=
        if_neg hsome
      replace h := performs_singleton.1 h
      rw [perform, himport] at h
      exact hu.change h fun t hholds => hholds.importLines records.lines _

theorem Stands.matching {entries : List LedgerEntry} {lines : List StatementLine}
    (hu : Stands files plan.window entries lines u)
    (h : plan.Performs (plan.actions records answers .matching) u v) :
    Stands files plan.window entries lines v := by
  dsimp only [actions] at h
  split at h
  · cases h
    exact hu
  · exact hu.change (performs_singleton.1 h) fun t hholds =>
      (hholds.matchAmounts records.smallest records.largest (plan.settings.workers * 2)).2

/-- Files that could be written are those that an action says. -/
theorem written_of_perform {σ : Type} [StagingArea σ] {u v : σ × φ} {matched : List MatchedRow}
    {entries : List OpenEntry} {lines : List OpenLine} {written : ReportFiles}
    (h : plan.perform (.write matched entries lines written) u
      = (.ok (.write matched entries lines written), v)) :
    ∃ warnings, writeReport plan.schedule plan.report matched entries lines u.2
      = (.ok written, warnings, v.2) := by
  obtain ⟨area, files⟩ := u
  have hresult := congrArg Prod.fst h
  have hfiles := congrArg (fun r => r.2.2) h
  dsimp only [perform] at hresult hfiles
  revert hresult hfiles
  generalize writeReport plan.schedule plan.report matched entries lines files = result
  obtain ⟨result, warnings, files'⟩ := result
  intro hresult hfiles
  cases result with
  | error failure => cases hresult
  | ok files'' =>
      cases hresult
      exact ⟨warnings, by rw [← hfiles]⟩

/-- What is told while reporting is what the tables say, and is what is written. -/
theorem Stands.reporting {entries : List LedgerEntry} {lines : List StatementLine}
    (hu : Stands files plan.window entries lines u)
    (h : plan.Performs (plan.actions records answers .reporting) u v) :
    ∃ t : Tables, t.Holds plan.window entries lines ∧ t.summary = .ok answers.summary ∧
      t.matched = .ok answers.matched ∧ t.openEntries = .ok answers.openEntries ∧
      t.openLines = .ok answers.openLines ∧
      ∃ warnings, writeReport plan.schedule plan.report answers.matched answers.openEntries
        answers.openLines files = (.ok answers.files, warnings, v.2) := by
  obtain ⟨⟨tables⟩, files'⟩ := u
  obtain ⟨rfl, t, rfl, hholds⟩ := hu
  obtain ⟨_, hperform₁, _, hperform₂, _, hperform₃, _, hperform₄, _, hwrite, rfl⟩ := h
  obtain ⟨hsummary, rfl⟩ := told_eq_ok_of_injective (fun _ _ => RunAction.summary.inj) hperform₁
  obtain ⟨hmatched, rfl⟩ := told_eq_ok_of_injective (fun _ _ => RunAction.matched.inj) hperform₂
  obtain ⟨hentries, rfl⟩ :=
    told_eq_ok_of_injective (fun _ _ => RunAction.openEntries.inj) hperform₃
  obtain ⟨hlines, rfl⟩ := told_eq_ok_of_injective (fun _ _ => RunAction.openLines.inj) hperform₄
  exact ⟨t, hholds, hsummary, hmatched, hentries, hlines, written_of_perform hwrite⟩

theorem files_of_discard (h : plan.Performs (plan.actions records answers .discard) u v) :
    v.2 = u.2 := by
  dsimp only [actions] at h
  split at h
  · cases h
    rfl
  · obtain ⟨-, -, -, rfl⟩ := told_eq_ok (performs_singleton.1 h)
    rfl

/-! ### Whole runs -/

/-- A run that went through its script reports what it took in. -/
theorem Succeeds.conserves {area : Staging} {last : Staging × φ}
    (h : plan.Succeeds (area, files) (plan.script records answers) last)
    (hyears : plan.window.HasPlainYears) :
    (plan.input plan.schedule files).1 = .ok records ∧ Conserves records answers ∧
      (∀ l ∈ answers.openLines, ∃ line ∈ records.lines, l.bank = line.bank) ∧
      ∃ warnings, writeReport plan.schedule plan.report answers.matched answers.openEntries
        answers.openLines files = (.ok answers.files, warnings, last.2) := by
  have hall := h.performs
  rw [script, actionsOf_scriptOf] at hall
  simp only [Stage.all, List.flatMap_cons, List.flatMap_nil, List.append_nil, performs_append]
    at hall
  obtain ⟨u₁, h₁, u₂, h₂, u₃, h₃, u₄, h₄, u₅, h₅, u₆, h₆, h₇⟩ := hall
  have hs₁ := stands_of_prepare h₁
  obtain ⟨rfl, hinput⟩ := input_of_intake h₂
  rw [hs₁.files_eq] at hinput
  have hs₅ := ((hs₁.stageLedger h₃).stageStatements h₄).matching h₅
  obtain ⟨t, hholds, hsummary, hmatched, hentries, hlines, hwritten⟩ := hs₅.reporting h₆
  have hrecords : records.Fits plan.window := Intake.fits_of_read hinput
  have hcounts := hholds.summary_counts hsummary
  have hledger := hholds.ledger_conserved hrecords.whole hmatched hentries
  have hstatements := hholds.statements_conserved hmatched hlines
  rw [hyears.filter_hasEntry hrecords] at hcounts hledger
  rw [hyears.filter_hasLine hrecords] at hcounts hstatements
  refine ⟨hinput, ?_, fun l hl => hholds.exists_line_of_mem_openLines hlines hl, ?_⟩
  · exact
      { ledger := hledger
        statements := hstatements
        ledger_count := hcounts.1
        statement_count := hcounts.2 }
  · rw [files_of_discard h₇]
    exact hwritten

/-- An entry, a line that matches it, and a line left over. -/
def quietFiles : FaultyFiles where
  files := .ofList
    [(⟨"system/a.csv"⟩, Text.encode "TrxID,TransactionTime,Type,Amount\nS,2025-03-07 10:00:00,DEBIT,5\n"),
      (⟨"bank/bca/c.csv"⟩, Text.encode
        "BCAUniqueIdentifier,BCADate,BCAAmount\nB1,2025-03-07,5\nB2,2025-03-07,2\n")]
  faults := .none

def quietOutcome : Outcome where
  summary := { ledgerCount := 1, matchedCount := 1, openLedgerCount := 0,
               ledgerSum := { Amount.zero with mantissa := 5, mantissa_lt := by decide },
               matchedSum := { Amount.zero with mantissa := 5, mantissa_lt := by decide },
               openLedgerSum := .zero,
               statementCount := 2, openStatementCount := 1 }
  files := { matched := some ⟨"report/system/matched/matched_7.csv"⟩, openEntries := none,
             openLines := [("BCA", ⟨"report/bank/not_matched/bca_7.csv"⟩)] }

theorem run_quietFiles :
    (dayPlan.run Staging.empty quietFiles).1 = .ok quietOutcome ∧
      (dayPlan.run Staging.empty quietFiles).2.warnings = [] := by
  decide +kernel

end RunPlan

end LedgerMatch
