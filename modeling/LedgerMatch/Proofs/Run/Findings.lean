import LedgerMatch.Proofs.Report
import LedgerMatch.Proofs.Run.Steps
import LedgerMatch.Proofs.Staging.Conservation

/-!
# What a run finds out

Up to its report a run depends on what it takes in alone: preparing forgets what was staged before,
and all that follows is asked of the tables that hold the records. A run that nothing stops thus has
a course that can be told without an area, and a run that may be stopped anywhere either leaves the
files alone or has come to report the same.
-/

namespace LedgerMatch

/-! ### Areas with tables -/

namespace Staging

theorem prepare_eq (area : Staging) (w : Window) :
    StagingArea.prepare area w = (.ok (), ⟨some (.fresh w)⟩) :=
  rfl

end Staging

/-! ### Findings -/

/-- What a run finds out before it writes its report. -/
structure Findings where
  summary : Summary
  matched : List MatchedRow
  openEntries : List OpenEntry
  openLines : List OpenLine

/-- Everything that is reported of tables. The first question that fails decides. -/
def Tables.findings (t : Tables) : Except Failure Findings := do
  let summary ← t.summary
  let matched ← t.matched
  let openEntries ← t.openEntries
  let openLines ← t.openLines
  pure { summary, matched, openEntries, openLines }

namespace RunPlan

/-- The tables with the records of a run. -/
def stagedTables (plan : RunPlan) (records : Intake) : Tables :=
  ((Tables.fresh plan.window).withEntries records.entries).withLines records.lines

/-- The tables with the records of a run, matched if there are ledger entries. -/
def matchedTables (plan : RunPlan) (records : Intake) : Tables :=
  let t := plan.stagedTables records
  if records.entries = [] then t
  else (t.matchAmounts records.smallest records.largest (plan.settings.workers * 2)).2

def findings (plan : RunPlan) (records : Intake) : Except Failure Findings :=
  (plan.matchedTables records).findings

variable {plan : RunPlan} {records : Intake}

theorem stagedTables_holds (plan : RunPlan) (records : Intake) :
    (plan.stagedTables records).Holds plan.window records.entries records.lines := by
  have hstaged := ((Tables.Holds.fresh plan.window).importEntries records.entries 1).importLines
    records.lines 1
  rw [Tables.importEntries_eq, Tables.importLines_eq] at hstaged
  exact hstaged

/-- The tables with the records of a run are matched without failure. -/
theorem matchAmounts_stagedTables (plan : RunPlan) (records : Intake) (h : ¬ records.entries = []) :
    StagingArea.matchAmounts (⟨some (plan.stagedTables records)⟩ : Staging) records.smallest
        records.largest (plan.settings.workers * 2)
      = (.ok (), ⟨some (plan.matchedTables records)⟩) := by
  show Staging.matchAmounts _ _ _ _ = _
  rw [Staging.matchAmounts, Staging.update_some, matchedTables, if_neg h,
    ((plan.stagedTables_holds records).matchAmounts _ _ _).1]

theorem matchedTables_holds (plan : RunPlan) (records : Intake) :
    (plan.matchedTables records).Holds plan.window records.entries records.lines := by
  rw [matchedTables]
  split
  · exact plan.stagedTables_holds records
  · exact ((plan.stagedTables_holds records).matchAmounts _ _ _).2

/-- The lines that are found left over are of the banks of lines taken in. -/
theorem plainBanks_findings (h : ∀ l ∈ records.lines, Text.IsPlain l.bank) {found : Findings}
    (hfound : plan.findings records = .ok found) : PlainBanks found.openLines := by
  intro l hl
  obtain ⟨_, -, hfound⟩ := bind_eq_ok.1 hfound
  obtain ⟨_, -, hfound⟩ := bind_eq_ok.1 hfound
  obtain ⟨_, -, hfound⟩ := bind_eq_ok.1 hfound
  obtain ⟨_, hlines, hfound⟩ := bind_eq_ok.1 hfound
  cases hfound
  obtain ⟨line, hline, hbank⟩ := (plan.matchedTables_holds records).exists_line_of_mem_openLines
    hlines hl
  rw [hbank]
  exact h line hline

end RunPlan

/-! ### Runs that nothing stops -/

section

variable {φ α β : Type}

/-- From an area and files a part of a run has a result and leads to an area and files, whatever the
run did before. -/
def Computes (op : RunM Staging φ α) (u : Staging × φ) (result : Except Failure α)
    (v : Staging × φ) : Prop :=
  ∀ s, (s.area, s.files) = u → (op s).1 = result ∧ ((op s).2.area, (op s).2.files) = v

namespace Computes

variable {u v w : Staging × φ}

theorem pure (a : α) (u : Staging × φ) : Computes (pure a) u (.ok a) u := fun _ h => ⟨rfl, h⟩

/-- Parts that follow each other. -/
theorem bind {op : RunM Staging φ α} {f : α → RunM Staging φ β} {a : α} {result : Except Failure β}
    (hop : Computes op u (.ok a) v) (hf : Computes (f a) v result w) :
    Computes (op >>= f) u result w := by
  intro s hs
  obtain ⟨hresult, hv⟩ := hop s hs
  rw [RunM.bind_apply]
  revert hresult hv
  generalize op s = ended
  obtain ⟨r, t⟩ := ended
  rintro rfl hv
  exact hf t hv

/-- A part that fails is the last one. -/
theorem bind_error {op : RunM Staging φ α} {failure : Failure}
    (hop : Computes op u (.error failure) v) (f : α → RunM Staging φ β) :
    Computes (op >>= f) u (.error failure) v := by
  intro s hs
  obtain ⟨hresult, hv⟩ := hop s hs
  rw [RunM.bind_apply]
  revert hresult hv
  generalize op s = ended
  obtain ⟨r, t⟩ := ended
  rintro rfl hv
  exact ⟨rfl, hv⟩

theorem call {c : StagingCall} {op : Staging → Except Failure α × Staging} {area area' : Staging}
    {result : Except Failure α} (h : op area = (result, area')) (files : φ) :
    Computes (RunM.call c op) (area, files) result (area', files) := by
  intro s hs
  cases hs
  rw [RunM.call_apply, h]
  exact ⟨rfl, rfl⟩

/-- A part that changes the tables by a call, unless there is nothing to change. -/
theorem change {p : Prop} [Decidable p] {c : StagingCall}
    {op : Staging → Except Failure Unit × Staging} {t t' : Tables} (hnone : p → t' = t)
    (hop : ¬ p → op ⟨some t⟩ = (.ok (), ⟨some t'⟩)) (files : φ) :
    Computes (if p then Pure.pure () else RunM.call c op) (⟨some t⟩, files) (.ok ())
      (⟨some t'⟩, files) := by
  split
  · next hp =>
      rw [hnone hp]
      exact pure () _
  · next hp => exact call (hop hp) files

/-- A stage of a run that is not cancelled names its failures. -/
theorem stage {plan : RunPlan} (hgoes : plan.cancelledAt = none) (stage : Stage)
    {op : RunM Staging φ α} {result : Except Failure α} (hop : Computes op u result v) :
    Computes (plan.stage stage op) u (result.mapError (.stage stage)) v := by
  intro s hs
  have hgoes : plan.isCancelled s.announced.length = false := by
    rw [RunPlan.isCancelled, hgoes]
  rw [RunPlan.stage_apply, hgoes, if_neg Bool.false_ne_true]
  obtain ⟨hresult, hv⟩ := hop { s with announced := s.announced ++ [.stage stage] } hs
  rw [RunM.within]
  revert hresult hv
  generalize op _ = ended
  obtain ⟨r, t⟩ := ended
  rintro rfl hv
  cases r with
  | ok a => exact ⟨rfl, hv⟩
  | error failure => exact ⟨rfl, hv⟩

end Computes

end

namespace RunPlan

variable {φ : Type} [FileSystem φ] {plan : RunPlan}

/-- What comes of findings, and the files after their report. -/
def reportOf (plan : RunPlan) (findings : Except Failure Findings) (files : φ) :
    Except Failure Outcome × φ :=
  match findings with
  | .error failure => (.error failure, files)
  | .ok found =>
      let (result, _, files) := writeReport plan.schedule plan.report found.matched
        found.openEntries found.openLines files
      (result.map fun paths => ⟨found.summary, paths⟩, files)

/-- How a run ends that nothing stops, and the files it leaves. -/
def course (plan : RunPlan) (files : φ) : Except Failure Outcome × φ :=
  match (plan.input plan.schedule files).1 with
  | .error failure => (.error (.stage .intake failure), files)
  | .ok records =>
      let (result, files) := plan.reportOf (plan.findings records) files
      (result.mapError (.stage .reporting), files)

omit [FileSystem φ] in
theorem computes_stageEntries (plan : RunPlan) (entries : List LedgerEntry) (t : Tables)
    (files : φ) : Computes (plan.stageEntries entries) (⟨some t⟩, files) (.ok ())
      (⟨some (t.withEntries entries)⟩, files) :=
  .change (fun hnone => by rw [hnone, Tables.withEntries_nil])
    (fun _ => Staging.importEntries_some t entries _) files

omit [FileSystem φ] in
theorem computes_stageLines (plan : RunPlan) (lines : List StatementLine) (t : Tables)
    (files : φ) : Computes (plan.stageLines lines) (⟨some t⟩, files) (.ok ())
      (⟨some (t.withLines lines)⟩, files) :=
  .change (fun hnone => by rw [hnone, Tables.withLines_nil])
    (fun _ => Staging.importLines_some t lines _) files

omit [FileSystem φ] in
theorem computes_matchRecords (plan : RunPlan) (records : Intake) (files : φ) :
    Computes (plan.matchRecords records) (⟨some (plan.stagedTables records)⟩, files) (.ok ())
      (⟨some (plan.matchedTables records)⟩, files) :=
  .change (fun hnone => if_pos hnone) (plan.matchAmounts_stagedTables records) files

/-- A part of a run that reports findings about the tables of its area. -/
def Reports (plan : RunPlan) (op : RunM Staging φ Outcome) (t : Tables)
    (findings : Except Failure Findings) : Prop :=
  ∀ files, Computes op (⟨some t⟩, files) (plan.reportOf findings files).1
    (⟨some t⟩, (plan.reportOf findings files).2)

/-- A question that is asked before the rest is reported. -/
theorem Reports.ask {α : Type} {c : StagingCall} {question : Staging → Except Failure α × Staging}
    {answer : Except Failure α} {t : Tables} (h : question ⟨some t⟩ = (answer, ⟨some t⟩))
    {f : α → RunM Staging φ Outcome} {rest : α → Except Failure Findings}
    (hf : ∀ x, plan.Reports (f x) t (rest x)) :
    plan.Reports (RunM.call c question >>= f) t (answer >>= rest) := by
  intro files
  have hcall : Computes (RunM.call c question) (⟨some t⟩, files) answer (⟨some t⟩, files) :=
    .call h files
  cases answer with
  | error failure => exact hcall.bind_error f
  | ok x => exact hcall.bind (hf x files)

theorem reports_writeFiles (plan : RunPlan) (t : Tables) (found : Findings) :
    plan.Reports
      (do
        let files ← plan.writeFiles found.matched found.openEntries found.openLines
        pure ⟨found.summary, files⟩ : RunM Staging φ Outcome) t (.ok found) := by
  intro files s hs
  have harea : s.area = ⟨some t⟩ := congrArg Prod.fst hs
  have hfiles : s.files = files := congrArg Prod.snd hs
  rw [RunM.bind_apply, writeFiles_apply, reportOf, hfiles]
  generalize writeReport plan.schedule plan.report found.matched found.openEntries
    found.openLines files = written
  obtain ⟨result, warnings, files'⟩ := written
  cases result with
  | ok paths => exact ⟨rfl, Prod.ext harea rfl⟩
  | error failure => exact ⟨rfl, Prod.ext harea rfl⟩

theorem reports_exportReport (plan : RunPlan) (t : Tables) :
    plan.Reports (plan.exportReport : RunM Staging φ Outcome) t t.findings := by
  rw [exportReport, Tables.findings]
  refine .ask (by rfl) fun summary => ?_
  refine .ask (by rfl) fun matched => ?_
  refine .ask (by rfl) fun entries => ?_
  refine .ask (by rfl) fun lines => ?_
  exact plan.reports_writeFiles t ⟨summary, matched, entries, lines⟩

omit [FileSystem φ] in
theorem exists_computes_discardTables (plan : RunPlan) (area : Staging) (files : φ) :
    ∃ last, Computes plan.discardTables (area, files) (.ok ()) (last, files) := by
  rw [discardTables]
  split
  · exact ⟨area, .pure () _⟩
  · exact ⟨.empty, .call (by rfl) files⟩

/-- A run that nothing stops takes its course, whatever was staged before. -/
theorem run_course (hgoes : plan.cancelledAt = none) (area : Staging) (files : φ) :
    (plan.run area files).1 = (plan.course files).1 ∧
      (plan.run area files).2.files = (plan.course files).2 := by
  suffices h : ∃ last, Computes plan.stages (area, files) (plan.course files).1
      (last, (plan.course files).2) by
    obtain ⟨last, hstages⟩ := h
    have hstart : ∀ s : RunState Staging φ, s = { area, files } → (s.area, s.files) = (area, files) := by
      rintro s rfl
      rfl
    obtain ⟨hresult, hlast⟩ := hstages { area, files } (hstart _ rfl)
    have hfiles : (plan.run area files).2.files = (plan.stages { area, files }).2.files := rfl
    rw [hfiles]
    exact ⟨hresult, congrArg Prod.snd hlast⟩
  have hprepare : Computes
      (RunM.call (.plain .prepare) (StagingArea.prepare · plan.window)) (area, files) (.ok ())
      (⟨some (.fresh plan.window)⟩, files) := by
    refine .call ?_ files
    exact Staging.prepare_eq area plan.window
  have hintake : Computes plan.intake (⟨some (.fresh plan.window)⟩, files)
      (plan.input plan.schedule files).1 (⟨some (.fresh plan.window)⟩, files) := by
    intro s hs
    rw [intake_apply]
    exact ⟨by rw [show s.files = files from congrArg Prod.snd hs], hs⟩
  rw [course]
  cases hinput : (plan.input plan.schedule files).1 with
  | error failure =>
      rw [hinput] at hintake
      exact ⟨_, (hprepare.stage hgoes .prepare).bind ((hintake.stage hgoes .intake).bind_error _)⟩
  | ok records =>
      rw [hinput] at hintake
      have hledger := (plan.computes_stageEntries records.entries (.fresh plan.window) files).stage
        hgoes .stageLedger
      have hstatements := (plan.computes_stageLines records.lines
        ((Tables.fresh plan.window).withEntries records.entries) files).stage hgoes .stageStatements
      have hmatching := (plan.computes_matchRecords records files).stage hgoes .matching
      have hreporting := plan.reports_exportReport (plan.matchedTables records) files
      rw [← findings] at hreporting
      dsimp only
      generalize plan.reportOf (plan.findings records) files = reported at hreporting ⊢
      obtain ⟨result, files'⟩ := reported
      have hbefore {last : Staging} {result' : Except Failure Outcome}
          (hrest : Computes (do
            let outcome ← plan.stage .reporting plan.exportReport
            plan.stage .discard plan.discardTables
            pure outcome : RunM Staging φ Outcome) (⟨some (plan.matchedTables records)⟩, files)
              result' (last, files')) :
          Computes plan.stages (area, files) result' (last, files') :=
        (hprepare.stage hgoes .prepare).bind ((hintake.stage hgoes .intake).bind
          (hledger.bind (hstatements.bind (hmatching.bind hrest))))
      cases result with
      | error failure => exact ⟨_, hbefore ((hreporting.stage hgoes .reporting).bind_error _)⟩
      | ok outcome =>
          obtain ⟨last, hdiscard⟩ := plan.exists_computes_discardTables
            ⟨some (plan.matchedTables records)⟩ files'
          exact ⟨last, hbefore ((hreporting.stage hgoes .reporting).bind
            ((hdiscard.stage hgoes .discard).bind (.pure outcome _)))⟩

end RunPlan

end LedgerMatch
