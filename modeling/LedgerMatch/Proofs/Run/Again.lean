import LedgerMatch.Proofs.Report.Rewriting
import LedgerMatch.Proofs.Run.Conservation
import LedgerMatch.Proofs.Run.Interrupted
import LedgerMatch.Proofs.Staging.Pairs

/-!
# Running again

However a run ended, the next run of the same plan forgets what it left staged, reads the same
records, and writes its report over whatever part of it was written already. So it ends like a run
that comes first, with the same files.
-/

namespace LedgerMatch

/-! ### Reading again -/

/-- Files that are alike at and below a root are read alike there. -/
theorem FlatFiles.AlikeBelow.readsAlike {root : Path} {fs fs' : FlatFiles}
    (h : AlikeBelow root fs fs') : ReadsAlike root fs fs' where
  walk := congrArg Except.ok h.below
  openFile := by
    intro paths hpaths p hp
    have hbelow : fs.below root = paths := Except.ok.inj hpaths
    rw [← hbelow] at hp
    have hfind := h.find? p (List.mem_filter.1 hp).2
    show (fs.read p).map Source.whole = (fs'.read p).map Source.whole
    rw [FlatFiles.read, FlatFiles.read, hfind]

/-- Files in which only writing and removing fail are read as they are. -/
theorem FaultyFiles.readsAlike (fs : FlatFiles) (unwritable unremovable : List Path) (root : Path) :
    ReadsAlike root (⟨fs, { write := unwritable, remove := unremovable }⟩ : FaultyFiles) fs where
  walk := rfl
  openFile := by
    intro paths _ p _
    show (⟨fs, _⟩ : FaultyFiles).openFile p = (fs.read p).map Source.whole
    rw [openFile, FlatFiles.read]
    dsimp only
    cases fs.find? p with
    | none => rfl
    | some content => rfl

namespace RunPlan

/-- An attempt at a run: its tasks finish in some order, and it may be cancelled at some stage. -/
def attempt (plan : RunPlan) (schedule : Schedule) (cancelledAt : Option Nat) : RunPlan :=
  { plan with schedule, cancelledAt }

variable (plan : RunPlan) (schedule schedule' : Schedule)

@[simp] theorem schedule_attempt (cancelledAt : Option Nat) :
    (plan.attempt schedule cancelledAt).schedule = schedule := rfl

@[simp] theorem findings_attempt (cancelledAt : Option Nat) (records : Intake) :
    (plan.attempt schedule cancelledAt).findings records = plan.findings records := rfl

@[simp] theorem input_attempt {φ : Type} [FileSystem φ] (cancelledAt : Option Nat) (files : φ) :
    (plan.attempt schedule cancelledAt).input schedule' files = plan.input schedule' files := rfl

variable {plan schedule schedule'}

/-- What is read depends on what lies below the two roots alone, and not on the schedule. -/
theorem input_congr {φ φ' : Type} [FileSystem φ] [FileSystem φ'] (plan : RunPlan) {fs : φ}
    {fs' : φ'}
    (h : ∀ root ∈ [plan.settings.ledgerRoot, plan.settings.statementRoot], ReadsAlike root fs fs')
    (schedule schedule' : Schedule) :
    (plan.input schedule fs).1 = (plan.input schedule' fs').1 := by
  have hcongr := Intake.read_congr (h _ List.mem_cons_self)
    (h _ (List.mem_cons_of_mem _ List.mem_cons_self)) plan.registry schedule
    plan.settings.hasHeader plan.window
  rw [input, hcongr]
  exact (Intake.read_schedule schedule schedule' fs' _ _ _ _ _).1

/-- Where nothing fails, findings are written as a report. -/
theorem course_of_findings (plan : RunPlan) {records : Intake} {found : Findings} {files : FlatFiles}
    (hinput : (plan.input plan.schedule files).1 = .ok records)
    (hfound : plan.findings records = .ok found) (hplain : PlainBanks found.openLines) :
    plan.course files = (.ok ⟨found.summary, plan.report.files found.matched found.openEntries
        found.openLines⟩,
      plan.report.settle found.matched found.openEntries found.openLines files) := by
  rw [course, hinput]
  dsimp only
  rw [hfound, reportOf]
  dsimp only
  rw [writeReport_flat _ _ _ _ hplain]
  rfl

/-- The course of a run does not depend on the order in which its tasks finish. -/
theorem course_schedule (hregistry : plan.registry.AddsNoSlash) (files : FlatFiles) :
    (plan.attempt schedule none).course files = (plan.attempt schedule' none).course files := by
  have hread : (plan.input schedule files).1 = (plan.input schedule' files).1 :=
    (Intake.read_schedule schedule schedule' files _ _ _ _ _).1
  cases hinput : (plan.input schedule files).1 with
  | error failure =>
      rw [course, course]
      simp only [schedule_attempt, input_attempt, ← hread, hinput]
  | ok records =>
      cases hfound : plan.findings records with
      | error failure =>
          rw [course, course]
          simp only [schedule_attempt, input_attempt, ← hread, hinput, findings_attempt, hfound,
            reportOf]
      | ok found =>
          have hplain : PlainBanks found.openLines :=
            plainBanks_findings (Intake.isPlain_bank_of_read hregistry hinput) hfound
          rw [(plan.attempt schedule none).course_of_findings hinput hfound hplain,
            (plan.attempt schedule' none).course_of_findings (hread.symm.trans hinput) hfound hplain]
          rfl

/-! ### Two runs after each other -/

/-- A run takes the same course over its own report, or over the part of it that could be
written. -/
theorem course_writeReport (plan : RunPlan) {records : Intake} {found : Findings} {files : FlatFiles}
    (hapart : ∀ root ∈ [plan.settings.ledgerRoot, plan.settings.statementRoot],
      ∀ dir ∈ plan.report.directories, ∀ p : Path, ¬ (p.isBelow root = true ∧ p.isBelow dir = true))
    (hinput : (plan.input plan.schedule files).1 = .ok records)
    (hfound : plan.findings records = .ok found) (hplain : PlainBanks found.openLines)
    (schedule : Schedule) (faults : Faults) :
    plan.course (writeReport schedule plan.report found.matched found.openEntries found.openLines
      (⟨files, faults⟩ : FaultyFiles)).2.2.files = plan.course files := by
  have halike : ∀ root ∈ [plan.settings.ledgerRoot, plan.settings.statementRoot],
      ReadsAlike root (writeReport schedule plan.report found.matched found.openEntries
        found.openLines (⟨files, faults⟩ : FaultyFiles)).2.2.files files := fun root hroot =>
    (ReportPlan.alikeBelow_writeReport hplain (hapart root hroot) _ _).readsAlike
  rw [plan.course_of_findings ((plan.input_congr halike _ _).trans hinput) hfound hplain,
    plan.course_of_findings hinput hfound hplain, ReportPlan.settle_writeReport hplain]

/-- Whatever became of a run, the next run of the plan that nothing stops ends like a run that comes
first: the earlier one may have been cancelled, its area may have failed at any operation and may
have held anything before and after it, and files may have been impossible to write or to remove.
All that is asked is that no file lies below an input root and a directory of reports at once, and
that the makers of the registry add no slash to the code of a bank: no reader of a layout does, and
none of this program (`Registry.standard_addsNoSlash`). -/
theorem run_again_same {σ : Type} [StagingArea σ] {view : σ → Staging} (plan : RunPlan)
    (hview : MayFail view) (hregistry : plan.registry.AddsNoSlash)
    (hapart : ∀ root ∈ [plan.settings.ledgerRoot, plan.settings.statementRoot],
      ∀ dir ∈ plan.report.directories, ∀ p : Path, ¬ (p.isBelow root = true ∧ p.isBelow dir = true))
    (area : σ) (files : FlatFiles) (unwritable unremovable : List Path)
    (cancelledAt : Option Nat) (firstSchedule secondSchedule schedule : Schedule) :
    let first := (plan.attempt firstSchedule cancelledAt).run area
      (⟨files, { write := unwritable, remove := unremovable }⟩ : FaultyFiles)
    let second := (plan.attempt secondSchedule none).run (view first.2.area) first.2.files.files
    let alone := (plan.attempt schedule none).run Staging.empty files
    second.1 = alone.1 ∧ second.2.files = alone.2.files := by
  intro first second alone
  have hsecond := (plan.attempt secondSchedule none).run_course rfl (view first.2.area)
    first.2.files.files
  have halone := (plan.attempt schedule none).run_course rfl Staging.empty files
  suffices hcourse : (plan.attempt secondSchedule none).course first.2.files.files
      = (plan.attempt secondSchedule none).course files by
    have hschedule : (plan.attempt secondSchedule none).course files
        = (plan.attempt schedule none).course files := course_schedule hregistry files
    rw [hsecond.1, hsecond.2, halone.1, halone.2, hcourse, hschedule]
    exact ⟨rfl, rfl⟩
  rcases (plan.attempt firstSchedule cancelledAt).reported_run hview area
      (⟨files, { write := unwritable, remove := unremovable }⟩ : FaultyFiles) with
    hkept | ⟨found, ⟨records, hinput, hfound⟩, hwritten⟩
  · -- the first run left the files alone
    have hfiles : first.2.files.files = files := congrArg FaultyFiles.files hkept
    rw [hfiles]
  · -- the first run wrote its report, or a part of it
    have hplain : PlainBanks found.openLines :=
      plainBanks_findings (Intake.isPlain_bank_of_read hregistry hinput) hfound
    have hread : (plan.input secondSchedule files).1 = .ok records :=
      (plan.input_congr (fun root _ => FaultyFiles.readsAlike files unwritable unremovable root)
        firstSchedule secondSchedule).symm.trans hinput
    have hfiles := congrArg FaultyFiles.files hwritten
    change first.2.files.files = _ at hfiles
    rw [hfiles]
    exact (plan.attempt secondSchedule none).course_writeReport hapart hread hfound hplain
      firstSchedule { write := unwritable, remove := unremovable }

/-- An area with tables of the day before that refuses to discard tables. -/
def stuckArea : RefusingArea Staging := ⟨.twins, some .discard⟩

theorem quietFiles_run_again_same :
    MayFail (RefusingArea.area : RefusingArea Staging → Staging) ∧
      dayPlan.registry.AddsNoSlash ∧
      (∀ root ∈ [dayPlan.settings.ledgerRoot, dayPlan.settings.statementRoot],
        ∀ dir ∈ dayPlan.report.directories, ∀ p : Path,
          ¬ (p.isBelow root = true ∧ p.isBelow dir = true)) ∧
      let first := (dayPlan.attempt .reversed none).run stuckArea
        (⟨quietFiles.files, { write := [⟨"report/bank"⟩], remove := [] }⟩ : FaultyFiles)
      let second := (dayPlan.attempt .reversed none).run first.2.area.area first.2.files.files
      let alone := (dayPlan.attempt .sequential none).run Staging.empty quietFiles.files
      first.1 = .error (.stage .discard (.undecodable "post failed")) ∧
        second.1 = alone.1 ∧ second.2.files = alone.2.files := by
  have hapart : ∀ root ∈ [dayPlan.settings.ledgerRoot, dayPlan.settings.statementRoot],
      ∀ dir ∈ dayPlan.report.directories, ∀ p : Path,
        ¬ (p.isBelow root = true ∧ p.isBelow dir = true) := by
    have hroots : ∀ root ∈ [dayPlan.settings.ledgerRoot, dayPlan.settings.statementRoot],
        ∀ dir ∈ dayPlan.report.directories, root.isBelow dir = false ∧ dir.isBelow root = false := by
      decide +kernel
    intro root hroot dir hdir
    exact Path.not_below_both (hroots root hroot dir hdir).1 (hroots root hroot dir hdir).2
  exact ⟨RefusingArea.mayFail, Registry.standard_addsNoSlash, hapart, by decide +kernel,
    dayPlan.run_again_same RefusingArea.mayFail Registry.standard_addsNoSlash hapart stuckArea
      quietFiles.files [⟨"report/bank"⟩] [] none .reversed .reversed .sequential⟩

end RunPlan

end LedgerMatch
