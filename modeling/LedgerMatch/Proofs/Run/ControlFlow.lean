import LedgerMatch.Proofs.Run.Steps

/-!
# The course of a run

Every run follows a script: the seven stages, each with its actions, in one order. It goes through
the script up to the first action that fails or to the first stage that it finds itself cancelled
before. Which calls it makes, what it announces and how it ends can be told from how far it came,
whatever the staging area and the file system answer.
-/

namespace LedgerMatch

/-! ### Scripts -/

/-- Something that a run does within a stage, together with what it is told. -/
inductive RunAction where
  | prepare (w : Window)
  | read (records : Intake)
  | importEntries (entries : List LedgerEntry) (chunks : Nat)
  | importLines (lines : List StatementLine) (chunks : Nat)
  | matchAmounts (smallest largest : Amount) (buckets : Nat)
  | summary (summary : Summary)
  | matched (rows : List MatchedRow)
  | openEntries (entries : List OpenEntry)
  | openLines (lines : List OpenLine)
  | write (matched : List MatchedRow) (entries : List OpenEntry) (lines : List OpenLine)
      (files : ReportFiles)
  | discard

/-- A step of a run. -/
inductive RunStep where
  | enter (stage : Stage)
  | act (action : RunAction)

/-- The call of the staging area that an action makes. Files are read and written without one. -/
def RunAction.call? : RunAction → Option StagingCall
  | prepare _ => some (.plain .prepare)
  | read _ => none
  | importEntries entries chunks => some (.importEntries entries.length chunks)
  | importLines lines chunks => some (.importLines lines.length chunks)
  | matchAmounts smallest largest buckets => some (.matchAmounts smallest largest buckets)
  | summary _ => some (.plain .summary)
  | matched _ => some (.plain .matched)
  | openEntries _ => some (.plain .openEntries)
  | openLines _ => some (.plain .openLines)
  | write .. => none
  | discard => some (.plain .discard)

/-- An action that leaves the files alone. -/
def RunAction.KeepsFiles : RunAction → Prop
  | write .. => False
  | _ => True

def RunStep.call? : RunStep → Option StagingCall
  | enter _ => none
  | act action => action.call?

def RunStep.stage? : RunStep → Option Stage
  | enter stage => some stage
  | act _ => none

/-- The calls of steps, in their order. -/
def callsOf (steps : List RunStep) : List StagingCall := steps.filterMap RunStep.call?

/-- The stages that steps enter, in their order. -/
def stagesOf (steps : List RunStep) : List Stage := steps.filterMap RunStep.stage?

/-- What a run is told while it reports. -/
structure Answers where
  summary : Summary
  matched : List MatchedRow
  openEntries : List OpenEntry
  openLines : List OpenLine
  files : ReportFiles

@[simp] theorem stagesOf_append (steps later : List RunStep) :
    stagesOf (steps ++ later) = stagesOf steps ++ stagesOf later :=
  List.filterMap_append

/-- Actions enter no stage. -/
theorem stagesOf_enter_acts (stage : Stage) (actions : List RunAction) :
    stagesOf (.enter stage :: actions.map .act) = [stage] := by
  have hnone : (actions.map RunStep.act).filterMap RunStep.stage? = [] := by
    rw [List.filterMap_map]
    exact List.filterMap_eq_nil_iff.2 fun _ _ => rfl
  show stage :: (actions.map RunStep.act).filterMap RunStep.stage? = [stage]
  rw [hnone]

def Answers.outcome (answers : Answers) : Outcome := ⟨answers.summary, answers.files⟩

def Stage.all : List Stage :=
  [prepare, intake, stageLedger, stageStatements, matching, reporting, discard]

namespace RunPlan

/-- The actions of a stage. Nothing is staged where there is nothing to stage, nothing is matched
without ledger entries, and the tables are kept if they are to be looked at. -/
def actions (plan : RunPlan) (records : Intake) (answers : Answers) : Stage → List RunAction
  | .prepare => [.prepare plan.window]
  | .intake => [.read records]
  | .stageLedger =>
      if records.entries = [] then []
      else [.importEntries records.entries plan.settings.workers]
  | .stageStatements =>
      if records.lines = [] then [] else [.importLines records.lines (plan.settings.workers * 2)]
  | .matching =>
      if records.entries = [] then []
      else [.matchAmounts records.smallest records.largest (plan.settings.workers * 2)]
  | .reporting =>
      [.summary answers.summary, .matched answers.matched, .openEntries answers.openEntries,
        .openLines answers.openLines,
        .write answers.matched answers.openEntries answers.openLines answers.files]
  | .discard => if plan.settings.isDebug then [] else [.discard]

/-- The steps of some stages. -/
def scriptOf (plan : RunPlan) (records : Intake) (answers : Answers) (stages : List Stage) :
    List RunStep :=
  stages.flatMap fun stage => .enter stage :: (plan.actions records answers stage).map .act

/-- The steps of a run that nothing stops. -/
def script (plan : RunPlan) (records : Intake) (answers : Answers) : List RunStep :=
  plan.scriptOf records answers Stage.all

theorem stagesOf_scriptOf (plan : RunPlan) (records : Intake) (answers : Answers)
    (stages : List Stage) : stagesOf (plan.scriptOf records answers stages) = stages := by
  induction stages with
  | nil => rfl
  | cons stage rest ih =>
      show stagesOf (.enter stage :: (plan.actions records answers stage).map .act
        ++ plan.scriptOf records answers rest) = stage :: rest
      rw [stagesOf_append, stagesOf_enter_acts, ih, List.singleton_append]

/-! ### Going through a script -/

variable {σ φ : Type} [StagingArea σ] [FileSystem φ]

/-- What the staging area says to an action. -/
def told {α : Type} (files : φ) (action : α → RunAction) (answer : Except Failure α × σ) :
    Except Failure RunAction × σ × φ :=
  (answer.1.map action, answer.2, files)

/-- Performs an action. The result is the action with what is really told. -/
def perform (plan : RunPlan) : RunAction → σ × φ → Except Failure RunAction × σ × φ
  | .prepare w, (area, files) => told files (fun _ => .prepare w) (StagingArea.prepare area w)
  | .read _, (area, files) => ((plan.input plan.schedule files).1.map .read, area, files)
  | .importEntries entries chunks, (area, files) =>
      told files (fun _ => .importEntries entries chunks)
        (StagingArea.importEntries area entries chunks)
  | .importLines lines chunks, (area, files) =>
      told files (fun _ => .importLines lines chunks) (StagingArea.importLines area lines chunks)
  | .matchAmounts smallest largest buckets, (area, files) =>
      told files (fun _ => .matchAmounts smallest largest buckets)
        (StagingArea.matchAmounts area smallest largest buckets)
  | .summary _, (area, files) => told files .summary (StagingArea.summary area)
  | .matched _, (area, files) => told files .matched (StagingArea.matched area)
  | .openEntries _, (area, files) => told files .openEntries (StagingArea.openEntries area)
  | .openLines _, (area, files) => told files .openLines (StagingArea.openLines area)
  | .write matched entries lines _, (area, files) =>
      let written := writeReport plan.schedule plan.report matched entries lines files
      (written.1.map (.write matched entries lines), area, written.2.2)
  | .discard, (area, files) => told files (fun _ => .discard) (StagingArea.discard area)

/-- Steps that succeed one after the other: no stage is entered cancelled, and every action is told
what the step says. -/
inductive Succeeds (plan : RunPlan) (start : σ × φ) : List RunStep → σ × φ → Prop where
  | none : Succeeds plan start [] start
  | enter {steps : List RunStep} {w : σ × φ} (h : Succeeds plan start steps w) (stage : Stage)
      (hgoes : plan.isCancelled (stagesOf steps).length = false) :
      Succeeds plan start (steps ++ [.enter stage]) w
  | act {steps : List RunStep} {w w' : σ × φ} {action : RunAction}
      (h : Succeeds plan start steps w) (hok : plan.perform action w = (.ok action, w')) :
      Succeeds plan start (steps ++ [.act action]) w'

/-- How a run ends after some steps, the remaining ones being those it did not try. -/
inductive Ends (plan : RunPlan) (start : σ × φ) (answers : Answers) :
    List RunStep → List RunStep → σ × φ → Except Failure Outcome → Prop where
  | completed {steps : List RunStep} {last : σ × φ} (h : Succeeds plan start steps last) :
      Ends plan start answers steps [] last (.ok answers.outcome)
  | cancelled {steps later : List RunStep} {last : σ × φ} {stage : Stage}
      (h : Succeeds plan start steps last)
      (hstops : plan.isCancelled (stagesOf steps).length = true) :
      Ends plan start answers steps (.enter stage :: later) last (.error .cancelled)
  | failed {steps later : List RunStep} {w last : σ × φ} {action : RunAction} {stage : Stage}
      {failure : Failure} (h : Succeeds plan start steps w)
      (hstage : (stagesOf steps).getLast? = some stage)
      (hfails : plan.perform action w = (.error failure, last)) :
      Ends plan start answers (steps ++ [.act action]) later last (.error (.stage stage failure))

/-! ### Parts of a run -/

/-- A state of a run after steps that succeeded. -/
structure Reached (plan : RunPlan) (start : σ × φ) (steps : List RunStep) (s : RunState σ φ) :
    Prop where
  succeeds : plan.Succeeds start steps (s.area, s.files)
  calls : s.calls = callsOf steps
  announced : s.announced = (stagesOf steps).map .stage

/-- A state of a run after steps that succeeded and an action that failed. -/
structure FailedAt (plan : RunPlan) (start : σ × φ) (steps : List RunStep) (action : RunAction)
    (failure : Failure) (s : RunState σ φ) : Prop where
  fails : ∃ w, plan.Succeeds start steps w ∧
    plan.perform action w = (.error failure, (s.area, s.files))
  calls : s.calls = callsOf (steps ++ [.act action])
  announced : s.announced = (stagesOf steps).map .stage

theorem Reached.enter {plan : RunPlan} {start : σ × φ} {steps : List RunStep} {s : RunState σ φ}
    (h : plan.Reached start steps s) (stage : Stage)
    (hgoes : plan.isCancelled (stagesOf steps).length = false) :
    plan.Reached start (steps ++ [.enter stage])
      { s with announced := s.announced ++ [.stage stage] } := by
  refine ⟨.enter h.succeeds stage hgoes, ?_, ?_⟩
  · rw [callsOf, List.filterMap_append]
    exact h.calls.trans (List.append_nil _).symm
  · rw [stagesOf_append, List.map_append]
    exact congrArg (· ++ [Announcement.stage stage]) h.announced

/-- The last stage entered is not left by actions. -/
theorem getLast?_stagesOf (before : List RunStep) (stage : Stage) (actions : List RunAction) :
    (stagesOf (before ++ .enter stage :: actions.map .act)).getLast? = some stage := by
  rw [stagesOf_append, stagesOf_enter_acts, List.getLast?_concat]

/-- Within a stage a failure is passed on as it is. -/
def AsItIs (_ : List RunStep) (failure result : Failure) : Prop := result = failure

/-- Between stages a failure is that of the last stage entered. -/
def OfStage (steps : List RunStep) (failure result : Failure) : Prop :=
  ∃ stage, (stagesOf steps).getLast? = some stage ∧ result = .stage stage failure

variable {α β : Type}

/-- What comes of a part of a run that does some steps, depending on its value. -/
inductive Comes (plan : RunPlan) (start : σ × φ) (names : List RunStep → Failure → Failure → Prop)
    (does : α → List RunStep → Prop) (before : List RunStep) :
    Except Failure α × RunState σ φ → Prop where
  | ok {a : α} {steps : List RunStep} {s : RunState σ φ} (hdoes : does a steps)
      (h : plan.Reached start (before ++ steps) s) : Comes plan start names does before (.ok a, s)
  | cancelled {a : α} {steps later : List RunStep} {stage : Stage} {s : RunState σ φ}
      (hdoes : does a (steps ++ .enter stage :: later))
      (h : plan.Reached start (before ++ steps) s)
      (hstops : plan.isCancelled (stagesOf (before ++ steps)).length = true) :
      Comes plan start names does before (.error .cancelled, s)
  | failed {a : α} {steps later : List RunStep} {action : RunAction} {failure result : Failure}
      {s : RunState σ φ} (hdoes : does a (steps ++ .act action :: later))
      (h : plan.FailedAt start (before ++ steps) action failure s)
      (hnames : names (before ++ steps) failure result) :
      Comes plan start names does before (.error result, s)

/-- A part of a run that does steps which depend on its value. -/
structure Does (plan : RunPlan) (start : σ × φ) (names : List RunStep → Failure → Failure → Prop)
    (op : RunM σ φ α) (does : α → List RunStep → Prop) : Prop where
  possible : ∃ a steps, does a steps
  comes : ∀ before s, plan.Reached start before s → plan.Comes start names does before (op s)

/-- A part of a run that stays within a stage. -/
def Acts (plan : RunPlan) (start : σ × φ) (op : RunM σ φ α) (does : α → List RunAction → Prop) :
    Prop :=
  Does plan start AsItIs op fun a steps => ∃ actions, does a actions ∧ steps = actions.map .act

namespace Does

variable {plan : RunPlan} {start : σ × φ} {names : List RunStep → Failure → Failure → Prop}

theorem pure (a : α) :
    Does plan start names (pure a : RunM σ φ α) fun b steps => b = a ∧ steps = [] where
  possible := ⟨a, [], rfl, rfl⟩
  comes := by
    intro before s h
    refine .ok ⟨rfl, rfl⟩ ?_
    rw [List.append_nil]
    exact h

theorem mono {op : RunM σ φ α} {does does' : α → List RunStep → Prop}
    (h : Does plan start names op does) (hmono : ∀ a steps, does a steps → does' a steps) :
    Does plan start names op does' where
  possible := by
    obtain ⟨a, steps, hdoes⟩ := h.possible
    exact ⟨a, steps, hmono a steps hdoes⟩
  comes := by
    intro before s hs
    have hcomes := h.comes before s hs
    revert hcomes
    generalize op s = result
    intro hcomes
    cases hcomes with
    | ok hdoes hreached => exact .ok (hmono _ _ hdoes) hreached
    | cancelled hdoes hreached hstops => exact .cancelled (hmono _ _ hdoes) hreached hstops
    | failed hdoes hfailed hnames => exact .failed (hmono _ _ hdoes) hfailed hnames

/-- Parts that follow each other do their steps one after the other. -/
theorem bind {op : RunM σ φ α} {f : α → RunM σ φ β} {does : α → List RunStep → Prop}
    {next : α → β → List RunStep → Prop} (hop : Does plan start names op does)
    (hf : ∀ a, Does plan start names (f a) (next a)) :
    Does plan start names (op >>= f) fun b steps =>
      ∃ a first rest, does a first ∧ next a b rest ∧ steps = first ++ rest where
  possible := by
    obtain ⟨a, first, hfirst⟩ := hop.possible
    obtain ⟨b, rest, hrest⟩ := (hf a).possible
    exact ⟨b, first ++ rest, a, first, rest, hfirst, hrest, rfl⟩
  comes := by
    intro before s h
    rw [RunM.bind_apply]
    have hcomes := hop.comes before s h
    revert hcomes
    generalize op s = result
    intro hcomes
    cases hcomes with
    | @ok a first t hfirst hreached =>
        have hnext := (hf a).comes _ t hreached
        dsimp only
        revert hnext
        generalize f a t = result
        intro hnext
        cases hnext with
        | ok hrest h =>
            rw [List.append_assoc] at h
            exact .ok ⟨a, first, _, hfirst, hrest, rfl⟩ h
        | cancelled hrest h hstops =>
            rw [List.append_assoc] at h hstops
            exact .cancelled ⟨a, first, _, hfirst, hrest, List.append_assoc ..⟩ h hstops
        | failed hrest h hnames =>
            rw [List.append_assoc] at h hnames
            exact .failed ⟨a, first, _, hfirst, hrest, List.append_assoc ..⟩ h hnames
    | @cancelled a first later stage t hfirst hreached hstops =>
        obtain ⟨b, rest, hrest⟩ := (hf a).possible
        exact .cancelled ⟨a, _, rest, hfirst, hrest, by rw [List.append_assoc]; rfl⟩ hreached hstops
    | @failed a first later action failure result t hfirst hfailed hnames =>
        obtain ⟨b, rest, hrest⟩ := (hf a).possible
        exact .failed ⟨a, _, rest, hfirst, hrest, by rw [List.append_assoc]; rfl⟩ hfailed hnames

/-- A part that performs one action does it. -/
theorem action [Nonempty α] {op : RunM σ φ α} (action : α → RunAction)
    (hop : ∀ s a, plan.perform (action a) (s.area, s.files)
      = ((op s).1.map action, (op s).2.area, (op s).2.files))
    (hcalls : ∀ s a, (op s).2.calls = s.calls ++ (action a).call?.toList)
    (hannounced : ∀ s, (op s).2.announced = s.announced) :
    Does plan start AsItIs op fun a steps => steps = [.act (action a)] where
  possible := by
    obtain ⟨a⟩ := ‹Nonempty α›
    exact ⟨a, _, rfl⟩
  comes := by
    intro before s h
    have hnoted : ∀ a, (op s).2.calls = callsOf (before ++ [.act (action a)]) := by
      intro a
      rw [hcalls s a, h.calls, callsOf, callsOf, List.filterMap_append]
      cases hcall : (action a).call? <;> simp [RunStep.call?, hcall]
    have hstages : ∀ a : α, stagesOf (before ++ [.act (action a)]) = stagesOf before := by
      intro a
      rw [stagesOf_append]
      exact List.append_nil _
    have hperform := hop s
    have hsame := hannounced s
    revert hperform hsame hnoted
    generalize op s = result
    obtain ⟨answer, t⟩ := result
    intro hnoted hperform hsame
    cases answer with
    | ok a =>
        refine .ok rfl ⟨.act h.succeeds (hperform a), hnoted a, ?_⟩
        rw [hstages a]
        exact hsame.trans h.announced
    | error failure =>
        obtain ⟨a⟩ := ‹Nonempty α›
        have hfailed : plan.FailedAt start (before ++ []) (action a) failure t := by
          rw [List.append_nil]
          exact ⟨⟨_, h.succeeds, hperform a⟩, hnoted a, hsame.trans h.announced⟩
        exact .failed (List.nil_append _).symm hfailed rfl

/-- Within a stage that was entered, failures get its name. -/
theorem within {op : RunM σ φ α} {stage : Stage} {does : α → List RunAction → Prop}
    (hop : Acts plan start op does)
    {before : List RunStep} {s : RunState σ φ}
    (h : plan.Reached start (before ++ [.enter stage]) s) :
    Comes plan start OfStage (fun a steps =>
      ∃ actions, does a actions ∧ steps = .enter stage :: actions.map .act) before
      (RunM.within stage op s) := by
  have hcomes := hop.comes _ s h
  unfold RunM.within
  revert hcomes
  generalize op s = result
  intro hcomes
  cases hcomes with
  | ok hdoes hreached =>
      obtain ⟨actions, hdoes, rfl⟩ := hdoes
      rw [List.append_assoc] at hreached
      exact .ok ⟨actions, hdoes, rfl⟩ hreached
  | @cancelled a steps later other t hdoes hreached hstops =>
      -- no stage is entered within a stage
      obtain ⟨actions, -, hsteps⟩ := hdoes
      have hmem : RunStep.enter other ∈ actions.map RunStep.act := by
        rw [← hsteps]
        exact List.mem_append_right _ List.mem_cons_self
      obtain ⟨action, -, hno⟩ := List.mem_map.1 hmem
      cases hno
  | @failed a steps later action failure result t hdoes hfailed hnames =>
      obtain ⟨actions, hdoes, hsteps⟩ := hdoes
      obtain ⟨first, rest, -, rfl, -⟩ := List.map_eq_append_iff.1 hsteps.symm
      have hall : .enter stage :: actions.map .act
          = (.enter stage :: first.map .act) ++ .act action :: later := by
        rw [List.cons_append, hsteps]
      have hnames : result = failure := hnames
      rw [List.append_assoc] at hfailed
      rw [hnames]
      exact .failed ⟨actions, hdoes, hall.symm⟩ hfailed
        ⟨stage, getLast?_stagesOf before stage first, rfl⟩

/-- A stage is entered, unless the run is cancelled, and then does what its part does. -/
theorem stage {op : RunM σ φ α} (stage : Stage) {does : α → List RunAction → Prop}
    (hop : Acts plan start op does) :
    Does plan start OfStage (plan.stage stage op) fun a steps =>
      ∃ actions, does a actions ∧ steps = .enter stage :: actions.map .act where
  possible := by
    obtain ⟨a, _, actions, hdoes, rfl⟩ := hop.possible
    exact ⟨a, _, actions, hdoes, rfl⟩
  comes := by
    intro before s h
    have hcount : s.announced.length = (stagesOf before).length := by
      rw [h.announced, List.length_map]
    rw [stage_apply, hcount]
    split
    · next hstops =>
        obtain ⟨a, _, actions, hdoes, rfl⟩ := hop.possible
        rw [← List.append_nil before] at h hstops
        exact .cancelled ⟨actions, hdoes, (List.nil_append _).symm⟩ h hstops
    · next hgoes => exact within hop (h.enter stage (Bool.not_eq_true _ ▸ hgoes))

end Does

/-! ### The stages -/

section

variable (plan : RunPlan) (start : σ × φ)

theorem acts_prepare :
    Acts plan start
      (RunM.call (.plain .prepare) (StagingArea.prepare · plan.window) : RunM σ φ Unit)
      fun _ actions => ∀ records answers, actions = plan.actions records answers .prepare := by
  refine (Does.action (fun _ => .prepare plan.window) (fun _ _ => rfl) (fun _ _ => rfl)
    fun _ => rfl).mono ?_
  exact fun _ _ h => ⟨_, fun _ _ => rfl, h⟩

theorem acts_intake :
    Acts plan start plan.intake fun records actions =>
      ∀ answers, actions = plan.actions records answers .intake := by
  have : Nonempty Intake := ⟨⟨[], [], .zero, .zero⟩⟩
  refine (Does.action .read (fun _ _ => rfl) (fun s _ => ?_) fun _ => rfl).mono ?_
  · exact (List.append_nil s.calls).symm
  · exact fun records _ h => ⟨[.read records], fun _ => rfl, h⟩

theorem acts_stageEntries (records : Intake) :
    Acts plan start (plan.stageEntries records.entries) fun _ actions =>
      ∀ answers, actions = plan.actions records answers .stageLedger := by
  unfold stageEntries actions
  dsimp only
  split
  · exact (Does.pure ()).mono fun _ _ h => ⟨[], fun _ => rfl, h.2⟩
  · refine (Does.action (fun _ => .importEntries records.entries plan.settings.workers)
      (fun _ _ => rfl) (fun _ _ => rfl) fun _ => rfl).mono ?_
    exact fun _ _ h => ⟨_, fun _ => rfl, h⟩

theorem acts_stageLines (records : Intake) :
    Acts plan start (plan.stageLines records.lines) fun _ actions =>
      ∀ answers, actions = plan.actions records answers .stageStatements := by
  unfold stageLines actions
  dsimp only
  split
  · exact (Does.pure ()).mono fun _ _ h => ⟨[], fun _ => rfl, h.2⟩
  · refine (Does.action (fun _ => .importLines records.lines (plan.settings.workers * 2))
      (fun _ _ => rfl) (fun _ _ => rfl) fun _ => rfl).mono ?_
    exact fun _ _ h => ⟨_, fun _ => rfl, h⟩

theorem acts_matchRecords (records : Intake) :
    Acts plan start (plan.matchRecords records) fun _ actions =>
      ∀ answers, actions = plan.actions records answers .matching := by
  unfold matchRecords actions
  dsimp only
  split
  · exact (Does.pure ()).mono fun _ _ h => ⟨[], fun _ => rfl, h.2⟩
  · refine (Does.action
      (fun _ => .matchAmounts records.smallest records.largest (plan.settings.workers * 2))
      (fun _ _ => rfl) (fun _ _ => rfl) fun _ => rfl).mono ?_
    exact fun _ _ h => ⟨_, fun _ => rfl, h⟩

theorem acts_exportReport (records : Intake) :
    Acts plan start plan.exportReport fun outcome actions =>
      ∃ answers, outcome = answers.outcome ∧ actions = plan.actions records answers .reporting := by
  have hsummary : Nonempty Summary := ⟨⟨0, 0, 0, .zero, .zero, .zero, 0, 0⟩⟩
  have hfiles : Nonempty ReportFiles := ⟨⟨none, none, []⟩⟩
  unfold exportReport
  refine Does.mono (.bind (.action .summary (fun _ _ => rfl) (fun _ _ => rfl) fun _ => rfl)
    fun summary => .bind (.action .matched (fun _ _ => rfl) (fun _ _ => rfl) fun _ => rfl)
    fun matched => .bind (.action .openEntries (fun _ _ => rfl) (fun _ _ => rfl) fun _ => rfl)
    fun entries => .bind (.action .openLines (fun _ _ => rfl) (fun _ _ => rfl) fun _ => rfl)
    fun lines => .bind (.action (.write matched entries lines) (fun _ _ => rfl)
      (fun s _ => (List.append_nil s.calls).symm) fun _ => rfl)
    fun files => .pure (Outcome.mk summary files)) ?_
  rintro outcome _ ⟨summary, _, _, rfl, ⟨matched, _, _, rfl, ⟨entries, _, _, rfl,
    ⟨lines, _, _, rfl, ⟨files, _, _, rfl, ⟨rfl, rfl⟩, rfl⟩, rfl⟩, rfl⟩, rfl⟩, rfl⟩
  exact ⟨_, ⟨⟨summary, matched, entries, lines, files⟩, rfl, rfl⟩, rfl⟩

theorem acts_discardTables :
    Acts plan start plan.discardTables fun _ actions =>
      ∀ records answers, actions = plan.actions records answers .discard := by
  unfold discardTables actions
  split
  · exact (Does.pure ()).mono fun _ _ h => ⟨[], fun _ _ => rfl, h.2⟩
  · refine (Does.action (fun _ => .discard) (fun _ _ => rfl) (fun _ _ => rfl) fun _ => rfl).mono ?_
    exact fun _ _ h => ⟨_, fun _ _ => rfl, h⟩

/-- The stages follow a script. -/
theorem does_stages :
    Does plan start OfStage plan.stages fun outcome steps =>
      ∃ records answers, outcome = answers.outcome ∧ steps = plan.script records answers := by
  unfold stages
  refine Does.mono (.bind (.stage _ (plan.acts_prepare start)) fun _ =>
    .bind (.stage _ (plan.acts_intake start)) fun records =>
    .bind (.stage _ (plan.acts_stageEntries start records)) fun _ =>
    .bind (.stage _ (plan.acts_stageLines start records)) fun _ =>
    .bind (.stage _ (plan.acts_matchRecords start records)) fun _ =>
    .bind (.stage _ (plan.acts_exportReport start records)) fun outcome =>
    .bind (.stage _ (plan.acts_discardTables start)) fun _ => .pure outcome) ?_
  rintro outcome _ ⟨_, _, _, ⟨prepare, hprepare, rfl⟩, ⟨records, _, _, ⟨intake, hintake, rfl⟩,
    ⟨_, _, _, ⟨stageLedger, hledger, rfl⟩, ⟨_, _, _, ⟨stageStatements, hstatements, rfl⟩,
    ⟨_, _, _, ⟨matching, hmatching, rfl⟩, ⟨_, _, _, ⟨reporting, ⟨answers, rfl, hreporting⟩, rfl⟩,
    ⟨_, _, _, ⟨discard, hdiscard, rfl⟩, ⟨rfl, rfl⟩, rfl⟩, rfl⟩, rfl⟩, rfl⟩, rfl⟩, rfl⟩, rfl⟩
  refine ⟨records, answers, rfl, ?_⟩
  rw [hprepare records answers, hintake answers, hledger answers, hstatements answers,
    hmatching answers, hreporting, hdiscard records answers]
  rfl

end

/-! ### Files -/

section

variable {plan : RunPlan} {start : σ × φ} {records : Intake} {answers : Answers}

/-- Only writing reports changes files. -/
theorem perform_files (plan : RunPlan) {action : RunAction} (hkeeps : action.KeepsFiles) (w : σ × φ) :
    (plan.perform action w).2.2 = w.2 := by
  cases action with
  | write matched entries lines files => exact hkeeps.elim
  | _ => rfl

theorem Succeeds.files_eq {steps : List RunStep} {w : σ × φ} (h : plan.Succeeds start steps w)
    (hkeeps : ∀ action, .act action ∈ steps → action.KeepsFiles) : w.2 = start.2 := by
  induction h with
  | none => rfl
  | enter _ stage _ ih => exact ih fun action hmem => hkeeps action (List.mem_append_left _ hmem)
  | @act steps w w' action _ hok ih =>
      have hfiles := perform_files plan (hkeeps action (by simp)) w
      rw [hok] at hfiles
      exact hfiles.trans (ih fun action hmem => hkeeps action (List.mem_append_left _ hmem))

theorem Ends.files_eq {steps later : List RunStep} {last : σ × φ}
    {result : Except Failure Outcome} (h : plan.Ends start answers steps later last result)
    (hkeeps : ∀ action, .act action ∈ steps → action.KeepsFiles) : last.2 = start.2 := by
  cases h with
  | completed h => exact h.files_eq hkeeps
  | cancelled h _ => exact h.files_eq hkeeps
  | @failed steps later w last action stage failure h _ hfails =>
      have hfiles := perform_files plan (hkeeps action (by simp)) w
      rw [hfails] at hfiles
      exact hfiles.trans (h.files_eq fun action hmem => hkeeps action (List.mem_append_left _ hmem))

/-- Only the reporting stage writes files. -/
theorem keepsFiles_of_mem_actions {stage : Stage} (hstage : stage ≠ .reporting)
    {action : RunAction} (h : action ∈ plan.actions records answers stage) :
    action.KeepsFiles := by
  cases stage with
  | reporting => exact (hstage rfl).elim
  | prepare | intake =>
      rw [List.mem_singleton.1 h]
      exact trivial
  | stageLedger | stageStatements | matching | discard =>
      dsimp only [actions] at h
      split at h
      · cases h
      · rw [List.mem_singleton.1 h]
        exact trivial

/-- What is done of a script before the reporting stage leaves the files alone. -/
theorem keepsFiles_of_script {steps later : List RunStep}
    (hscript : plan.script records answers = steps ++ later)
    (hstages : .reporting ∉ stagesOf steps) {action : RunAction} (h : .act action ∈ steps) :
    action.KeepsFiles := by
  have hsplit : plan.script records answers
      = plan.scriptOf records answers [.prepare, .intake, .stageLedger, .stageStatements, .matching]
        ++ .enter .reporting :: ((plan.actions records answers .reporting).map .act
          ++ plan.scriptOf records answers [.discard]) := by
    have hstages : Stage.all
        = [.prepare, .intake, .stageLedger, .stageStatements, .matching] ++ [.reporting, .discard] :=
      rfl
    rw [script, hstages, scriptOf, List.flatMap_append]
    rfl
  have hfront : .act action ∈ plan.scriptOf records answers
      [.prepare, .intake, .stageLedger, .stageStatements, .matching] := by
    rw [hsplit] at hscript
    rcases List.append_eq_append_iff.1 hscript with ⟨more, hsteps, hrest⟩ | ⟨more, hall, -⟩
    · cases more with
      | nil =>
          rw [hsteps, List.append_nil] at h
          exact h
      | cons step more =>
          -- the reporting stage would have been entered
          have hstep : step = .enter .reporting := (List.cons.inj hrest).1.symm
          refine (hstages ?_).elim
          rw [hsteps, hstep, stagesOf_append]
          exact List.mem_append_right _ List.mem_cons_self
    · rw [hall]
      exact List.mem_append_left _ h
  obtain ⟨stage, hmem, hact⟩ := List.mem_flatMap.1 hfront
  rcases List.mem_cons.1 hact with hno | hact
  · cases hno
  · obtain ⟨other, hother, heq⟩ := List.mem_map.1 hact
    cases heq
    refine keepsFiles_of_mem_actions ?_ hother
    rintro rfl
    simp at hmem

end

/-! ### Whole runs -/

/-- The stages of a run go through a script up to some point. -/
theorem stages_follow_script (plan : RunPlan) (area : σ) (files : φ) :
    ∃ (records : Intake) (answers : Answers) (steps later : List RunStep),
      plan.script records answers = steps ++ later ∧
      plan.Ends (area, files) answers steps later
        ((plan.stages { area, files }).2.area, (plan.stages { area, files }).2.files)
        (plan.stages { area, files }).1 ∧
      (plan.stages { area, files }).2.calls = callsOf steps ∧
      (plan.stages { area, files }).2.announced = (stagesOf steps).map .stage := by
  have hstart : plan.Reached (area, files) [] { area, files } := ⟨.none, rfl, rfl⟩
  have hcomes := (plan.does_stages (area, files)).comes [] _ hstart
  revert hcomes
  generalize plan.stages { area, files } = result
  intro hcomes
  cases hcomes with
  | ok hdoes h =>
      obtain ⟨records, answers, rfl, rfl⟩ := hdoes
      exact ⟨records, answers, _, [], (List.append_nil _).symm, .completed h.succeeds, h.calls,
        h.announced⟩
  | cancelled hdoes h hstops =>
      obtain ⟨records, answers, -, hscript⟩ := hdoes
      exact ⟨records, answers, _, _, hscript.symm, .cancelled h.succeeds hstops, h.calls,
        h.announced⟩
  | @failed outcome steps later action failure result s hdoes h hnames =>
      obtain ⟨records, answers, -, hscript⟩ := hdoes
      obtain ⟨stage, hstage, rfl⟩ := hnames
      obtain ⟨w, hsucceeds, hfails⟩ := h.fails
      have hall : plan.script records answers = (steps ++ [.act action]) ++ later := by
        rw [← hscript, List.append_assoc, List.singleton_append]
      have hsame : stagesOf (steps ++ [.act action]) = stagesOf steps := by
        rw [stagesOf_append]
        exact List.append_nil _
      refine ⟨records, answers, _, _, hall, .failed hsucceeds hstage hfails, h.calls, ?_⟩
      rw [hsame]
      exact h.announced

/-- A run goes through a script up to some point, from which its result, its calls and its
announcements can be told. It always closes the staging area once and announces the end once. -/
theorem run_follows_script (plan : RunPlan) (area : σ) (files : φ) :
    ∃ (records : Intake) (answers : Answers) (steps later : List RunStep) (last : σ × φ),
      plan.script records answers = steps ++ later ∧ stagesOf steps <+: Stage.all ∧
      plan.Ends (area, files) answers steps later last (plan.run area files).1 ∧
      (plan.run area files).2.calls = callsOf steps ++ [.plain .close] ∧
      (plan.run area files).2.announced = (stagesOf steps).map .stage ++ [.finished] ∧
      (plan.run area files).2.area = (StagingArea.close last.1).2 ∧
      (plan.run area files).2.files = last.2 ∧
      (.reporting ∉ stagesOf steps → last.2 = files) := by
  obtain ⟨records, answers, steps, later, hscript, hends, hcalls, hannounced⟩ :=
    plan.stages_follow_script area files
  have hprefix : stagesOf steps <+: Stage.all := by
    rw [← plan.stagesOf_scriptOf records answers Stage.all, ← script, hscript, stagesOf_append]
    exact List.prefix_append _ _
  have hrun : plan.run area files
      = ((plan.stages { area, files }).1, conclude (plan.stages { area, files }).2) := rfl
  rw [hrun]
  refine ⟨records, answers, steps, later, _, hscript, hprefix, hends, ?_, ?_, rfl, rfl, ?_⟩
  · exact congrArg (· ++ [StagingCall.plain .close]) hcalls
  · exact congrArg (· ++ [Announcement.finished]) hannounced
  · exact fun hstages => hends.files_eq fun _ => keepsFiles_of_script hscript hstages

end RunPlan

end LedgerMatch
