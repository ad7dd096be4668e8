import LedgerMatch.Proofs.Run.ControlFlow

/-!
# Runs that complete

A run that returns an outcome has gone through its whole script. What it did can be read off the
actions of the script, performed one after the other, and what it noticed while it wrote its report
is among its warnings.
-/

namespace LedgerMatch

/-- The stages before the reporting stage. -/
def Stage.beforeReporting : List Stage :=
  [.prepare, .intake, .stageLedger, .stageStatements, .matching]

/-! ### Actions one after the other -/

def RunStep.action? : RunStep → Option RunAction
  | enter _ => none
  | act action => some action

/-- The actions of steps, in their order. -/
def actionsOf (steps : List RunStep) : List RunAction := steps.filterMap RunStep.action?

namespace RunPlan

variable {σ φ : Type} [StagingArea σ] [FileSystem φ]

/-- Actions that are performed one after the other, each of them told what it says. -/
def Performs (plan : RunPlan) : List RunAction → σ × φ → σ × φ → Prop
  | [], u, w => w = u
  | action :: rest, u, w =>
      ∃ v, plan.perform action u = (.ok action, v) ∧ plan.Performs rest v w

variable {plan : RunPlan} {start u w : σ × φ} {records : Intake} {answers : Answers}

theorem performs_append {first rest : List RunAction} :
    plan.Performs (first ++ rest) u w ↔ ∃ v, plan.Performs first u v ∧ plan.Performs rest v w := by
  induction first generalizing u with
  | nil =>
      constructor
      · intro h
        exact ⟨u, rfl, h⟩
      · rintro ⟨v, rfl, h⟩
        exact h
  | cons action first ih =>
      constructor
      · rintro ⟨x, hok, h⟩
        obtain ⟨v, hfirst, hrest⟩ := ih.1 h
        exact ⟨v, ⟨x, hok, hfirst⟩, hrest⟩
      · rintro ⟨v, ⟨x, hok, hfirst⟩, hrest⟩
        exact ⟨x, hok, ih.2 ⟨v, hfirst, hrest⟩⟩

/-- Steps that succeed perform their actions. -/
theorem Succeeds.performs {steps : List RunStep} (h : plan.Succeeds start steps w) :
    plan.Performs (actionsOf steps) start w := by
  induction h with
  | none => rfl
  | enter _ stage _ ih =>
      rw [actionsOf, List.filterMap_append]
      show plan.Performs (actionsOf _ ++ []) start _
      rw [List.append_nil]
      exact ih
  | @act steps v w action _ hok ih =>
      rw [actionsOf, List.filterMap_append]
      exact performs_append.2 ⟨v, ih, w, hok, rfl⟩

theorem actionsOf_scriptOf (stages : List Stage) :
    actionsOf (plan.scriptOf records answers stages)
      = stages.flatMap (plan.actions records answers) := by
  induction stages with
  | nil => rfl
  | cons stage rest ih =>
      have hacts : ((plan.actions records answers stage).map RunStep.act).filterMap
          RunStep.action? = plan.actions records answers stage := by
        rw [List.filterMap_map]
        exact List.filterMap_some
      rw [scriptOf, List.flatMap_cons, actionsOf, List.filterMap_append, List.flatMap_cons]
      show ((plan.actions records answers stage).map RunStep.act).filterMap RunStep.action?
        ++ actionsOf (plan.scriptOf records answers rest) = _
      rw [hacts, ih]

/-! ### Parts that succeed -/

variable {α : Type} {s t : RunState σ φ} {before : List RunStep}

/-- A part of a run that succeeds has done its steps. -/
theorem Does.of_ok {names : List RunStep → Failure → Failure → Prop} {op : RunM σ φ α}
    {does : α → List RunStep → Prop} (h : Does plan start names op does)
    (hs : plan.Reached start before s) {a : α} (hok : op s = (.ok a, t)) :
    ∃ steps, does a steps ∧ plan.Reached start (before ++ steps) t := by
  have hcomes := h.comes before s hs
  rw [hok] at hcomes
  cases hcomes with
  | ok hdoes hreached => exact ⟨_, hdoes, hreached⟩

variable {outcome : Outcome}

theorem keepsFiles_of_beforeReporting {action : RunAction}
    (h : .act action ∈ plan.scriptOf records answers Stage.beforeReporting) :
    action.KeepsFiles := by
  obtain ⟨stage, hstage, hmem⟩ := List.mem_flatMap.1 h
  rcases List.mem_cons.1 hmem with hno | hact
  · cases hno
  · obtain ⟨other, hother, heq⟩ := List.mem_map.1 hact
    cases heq
    refine keepsFiles_of_mem_actions ?_ hother
    rintro rfl
    simp [Stage.beforeReporting] at hstage

omit [FileSystem φ] in
/-- Discarding the tables adds no warning. -/
theorem warnings_of_discardTables {u : Unit} (h : plan.discardTables s = (.ok u, t)) :
    t.warnings = s.warnings := by
  rw [discardTables] at h
  split at h
  · cases h
    rfl
  · exact (RunM.call_eq_ok h).2

/-- What a run reports is what it was told, and what it notices about the files is noted. -/
theorem exportReport_of_ok (hs : plan.Reached start before s)
    (hok : plan.exportReport s = (.ok outcome, t)) (records : Intake) :
    ∃ answers : Answers, outcome = answers.outcome ∧
      plan.Reached start (before ++ (plan.actions records answers .reporting).map .act) t ∧
      t.warnings = s.warnings ++ (writeReport plan.schedule plan.report answers.matched
        answers.openEntries answers.openLines s.files).2.1 := by
  have hsummary : Nonempty Summary := ⟨⟨0, 0, 0, .zero, .zero, .zero, 0, 0⟩⟩
  have hfiles : Nonempty ReportFiles := ⟨⟨none, none, []⟩⟩
  obtain ⟨summary, s₁, h₁, hok⟩ := RunM.bind_eq_ok hok
  obtain ⟨matched, s₂, h₂, hok⟩ := RunM.bind_eq_ok hok
  obtain ⟨entries, s₃, h₃, hok⟩ := RunM.bind_eq_ok hok
  obtain ⟨lines, s₄, h₄, hok⟩ := RunM.bind_eq_ok hok
  obtain ⟨files, s₅, h₅, hok⟩ := RunM.bind_eq_ok hok
  cases hok
  obtain ⟨-, rfl, hs₁⟩ := (Does.action .summary (fun _ _ => rfl) (fun _ _ => rfl)
    fun _ => rfl).of_ok hs h₁
  obtain ⟨-, rfl, hs₂⟩ := (Does.action .matched (fun _ _ => rfl) (fun _ _ => rfl)
    fun _ => rfl).of_ok hs₁ h₂
  obtain ⟨-, rfl, hs₃⟩ := (Does.action .openEntries (fun _ _ => rfl) (fun _ _ => rfl)
    fun _ => rfl).of_ok hs₂ h₃
  obtain ⟨-, rfl, hs₄⟩ := (Does.action .openLines (fun _ _ => rfl) (fun _ _ => rfl)
    fun _ => rfl).of_ok hs₃ h₄
  obtain ⟨-, rfl, hs₅⟩ := (Does.action (.write matched entries lines) (fun _ _ => rfl)
    (fun s _ => (List.append_nil s.calls).symm) fun _ => rfl).of_ok hs₄ h₅
  have hkept₁ := RunM.call_eq_ok h₁
  have hkept₂ := RunM.call_eq_ok h₂
  have hkept₃ := RunM.call_eq_ok h₃
  have hkept₄ := RunM.call_eq_ok h₄
  refine ⟨⟨summary, matched, entries, lines, files⟩, rfl, ?_, ?_⟩
  · simp only [List.append_assoc] at hs₅
    exact hs₅
  · have hwarnings := congrArg (fun r => r.2.warnings) h₅
    rw [writeFiles_apply] at hwarnings
    rw [← hwarnings, hkept₄.1, hkept₃.1, hkept₂.1, hkept₁.1, hkept₄.2, hkept₃.2, hkept₂.2,
      hkept₁.2]

/-- A run that completes its stages has gone through its script. -/
theorem stages_of_ok {area : σ} {files : φ} (h : plan.stages { area, files } = (.ok outcome, s)) :
    ∃ (records : Intake) (answers : Answers), outcome = answers.outcome ∧
      plan.Succeeds (area, files) (plan.script records answers) (s.area, s.files) ∧
      (writeReport plan.schedule plan.report answers.matched answers.openEntries answers.openLines
        files).2.1 ⊆ s.warnings := by
  have hs₀ : plan.Reached (area, files) [] { area, files } := ⟨.none, rfl, rfl⟩
  obtain ⟨_, s₁, h₁, h⟩ := RunM.bind_eq_ok h
  obtain ⟨records, s₂, h₂, h⟩ := RunM.bind_eq_ok h
  obtain ⟨_, s₃, h₃, h⟩ := RunM.bind_eq_ok h
  obtain ⟨_, s₄, h₄, h⟩ := RunM.bind_eq_ok h
  obtain ⟨_, s₅, h₅, h⟩ := RunM.bind_eq_ok h
  obtain ⟨outcome', s₆, h₆, h⟩ := RunM.bind_eq_ok h
  obtain ⟨_, s₇, h₇, h⟩ := RunM.bind_eq_ok h
  cases h
  obtain ⟨_, ⟨_, hprepare, rfl⟩, hs₁⟩ := (Does.stage .prepare (plan.acts_prepare _)).of_ok hs₀ h₁
  obtain ⟨_, ⟨_, hintake, rfl⟩, hs₂⟩ := (Does.stage .intake (plan.acts_intake _)).of_ok hs₁ h₂
  obtain ⟨_, ⟨_, hledger, rfl⟩, hs₃⟩ :=
    (Does.stage .stageLedger (plan.acts_stageEntries _ records)).of_ok hs₂ h₃
  obtain ⟨_, ⟨_, hstatements, rfl⟩, hs₄⟩ :=
    (Does.stage .stageStatements (plan.acts_stageLines _ records)).of_ok hs₃ h₄
  obtain ⟨_, ⟨_, hmatching, rfl⟩, hs₅⟩ :=
    (Does.stage .matching (plan.acts_matchRecords _ records)).of_ok hs₄ h₅
  -- within the reporting stage the warnings are looked at as well
  obtain ⟨hgoes, hreport⟩ := stage_eq_ok h₆
  rw [hs₅.announced, List.length_map] at hgoes
  obtain ⟨answers, rfl, hs₆, hwarnings⟩ :=
    exportReport_of_ok (hs₅.enter .reporting hgoes) hreport records
  obtain ⟨_, ⟨_, hdiscard, rfl⟩, hs₇⟩ := (Does.stage .discard (plan.acts_discardTables _)).of_ok hs₆ h₇
  rw [hprepare records answers, hintake answers, hledger answers, hstatements answers,
    hmatching answers] at hs₅ hs₇
  rw [hdiscard records answers] at hs₇
  replace hs₅ : plan.Reached (area, files)
      (plan.scriptOf records answers Stage.beforeReporting) s₅ := by
    simp only [List.nil_append, List.append_assoc] at hs₅
    simp only [Stage.beforeReporting, scriptOf, List.flatMap_cons, List.flatMap_nil,
      List.append_nil]
    exact hs₅
  replace hs₇ : plan.Reached (area, files) (plan.script records answers) s := by
    simp only [List.nil_append, List.append_assoc] at hs₇
    simp only [script, Stage.all, scriptOf, List.flatMap_cons, List.flatMap_nil, List.append_nil]
    exact hs₇
  have hfiles : s₅.files = files :=
    hs₅.succeeds.files_eq fun action hmem => keepsFiles_of_beforeReporting hmem
  refine ⟨records, answers, rfl, hs₇.succeeds, ?_⟩
  have hkept := warnings_of_discardTables (stage_eq_ok h₇).2
  rw [hkept]
  show _ ⊆ s₆.warnings
  rw [hwarnings]
  show (writeReport plan.schedule plan.report answers.matched answers.openEntries
    answers.openLines files).2.1 ⊆ s₅.warnings ++ _
  rw [hfiles]
  exact List.subset_append_right _ _

end RunPlan

end LedgerMatch
