import LedgerMatch.Proofs.Run.Findings

/-!
# Runs that are interrupted

A run may be cancelled before a stage, and each operation of its area may fail. As long as the
operations that succeed do what they do in a staging area, such a run either leaves the files alone
or has found out what a run finds out that nothing stops, and has written its report.
-/

namespace LedgerMatch

/-! ### Areas that may fail -/

section

variable {σ α : Type} {view : σ → Staging}

/-- An operation that, whenever it succeeds, does what another one does in the staging area behind
the area. -/
def Follows (view : σ → Staging) (op : σ → Except Failure α × σ)
    (op' : Staging → Except Failure α × Staging) : Prop :=
  ∀ a b x, op a = (.ok x, b) → op' (view a) = (.ok x, view b)

/-- An area whose operations fail, leaving anything behind, or do what they do in the staging area
behind it. Nothing is said about the two operations after which a run asks nothing more. -/
structure MayFail [StagingArea σ] (view : σ → Staging) : Prop where
  prepare : ∀ w, Follows view (StagingArea.prepare · w) (StagingArea.prepare · w)
  importEntries : ∀ entries chunks, Follows view (StagingArea.importEntries · entries chunks)
    (StagingArea.importEntries · entries chunks)
  importLines : ∀ lines chunks, Follows view (StagingArea.importLines · lines chunks)
    (StagingArea.importLines · lines chunks)
  matchAmounts : ∀ smallest largest buckets,
    Follows view (StagingArea.matchAmounts · smallest largest buckets)
      (StagingArea.matchAmounts · smallest largest buckets)
  summary : Follows view StagingArea.summary StagingArea.summary
  matched : Follows view StagingArea.matched StagingArea.matched
  openEntries : Follows view StagingArea.openEntries StagingArea.openEntries
  openLines : Follows view StagingArea.openLines StagingArea.openLines

/-- A staging area itself does what it does. -/
theorem Staging.mayFail : MayFail (fun s : Staging => s) where
  prepare _ _ _ _ := id
  importEntries _ _ _ _ _ := id
  importLines _ _ _ _ _ := id
  matchAmounts _ _ _ _ _ _ := id
  summary _ _ _ := id
  matched _ _ _ := id
  openEntries _ _ _ := id
  openLines _ _ _ := id

theorem RefusingArea.follows_guarded (operation : StagingOperation)
    (op : Staging → Except Failure α × Staging) :
    Follows RefusingArea.area (fun a => a.guarded operation op) op := by
  intro a b x h
  replace h : a.guarded operation op = (.ok x, b) := h
  rw [guarded] at h
  split at h
  · cases h
  · obtain ⟨hresult, harea⟩ := Prod.mk.inj h
    exact Prod.ext hresult (congrArg RefusingArea.area harea)

/-- An area that refuses one operation does all others as the area behind it. -/
theorem RefusingArea.mayFail : MayFail (RefusingArea.area : RefusingArea Staging → Staging) where
  prepare _ := follows_guarded _ _
  importEntries _ _ := follows_guarded _ _
  importLines _ _ := follows_guarded _ _
  matchAmounts _ _ _ := follows_guarded _ _
  summary := follows_guarded _ _
  matched := follows_guarded _ _
  openEntries := follows_guarded _ _
  openLines := follows_guarded _ _

end

/-! ### Parts that keep the files -/

namespace RunM

variable {σ φ α β : Type}

/-- A part of a run that leaves the files alone, also when it fails. -/
def KeepsFiles (op : RunM σ φ α) : Prop := ∀ s, (op s).2.files = s.files

namespace KeepsFiles

theorem pure (a : α) : KeepsFiles (pure a : RunM σ φ α) := fun _ => rfl

theorem call (c : StagingCall) (op : σ → Except Failure α × σ) :
    KeepsFiles (RunM.call c op : RunM σ φ α) := fun _ => rfl

theorem stage {op : RunM σ φ α} (h : KeepsFiles op) (plan : RunPlan) (stage : Stage) :
    KeepsFiles (plan.stage stage op) := by
  intro s
  rcases plan.files_of_stage stage op s with hstop | hgo
  · exact hstop
  · exact hgo.trans (h _)

theorem callUnless (p : Prop) [Decidable p] (c : StagingCall) (op : σ → Except Failure Unit × σ) :
    KeepsFiles (if p then Pure.pure () else RunM.call c op : RunM σ φ Unit) := by
  split
  · exact pure ()
  · exact call c op

/-- What holds of the files holds behind a part that keeps them, if it holds wherever the run goes on
from there. -/
theorem bind_files {op : RunM σ φ α} {f : α → RunM σ φ β} {s : RunState σ φ} {files : φ}
    {P : φ → Prop} (h : KeepsFiles op) (hs : s.files = files) (hstop : P files)
    (hgo : ∀ a t, op s = (.ok a, t) → t.files = files → P (f a t).2.files) :
    P ((op >>= f) s).2.files := by
  have hop := (h s).trans hs
  rw [bind_apply]
  split
  · next a t hok =>
      rw [hok] at hop
      exact hgo a t hok hop
  · next herror =>
      rw [herror] at hop
      exact hop.symm ▸ hstop

/-- In front of a part that keeps the files they are what they are in the end. -/
theorem files_bind {f : α → RunM σ φ β} (h : ∀ a, KeepsFiles (f a)) (op : RunM σ φ α)
    (s : RunState σ φ) : ((op >>= f) s).2.files = (op s).2.files := by
  rw [bind_apply]
  split
  · next a t hok =>
      rw [hok]
      exact h a t
  · next herror => rw [herror]

end KeepsFiles

theorem area_of_call {c : StagingCall} {op : σ → Except Failure α × σ} {a : α}
    {s t : RunState σ φ} (h : call c op s = (.ok a, t)) : op s.area = (.ok a, t.area) := by
  rw [call_apply] at h
  obtain ⟨hresult, hstate⟩ := Prod.mk.inj h
  exact Prod.ext hresult (congrArg RunState.area hstate)

end RunM

/-! ### The stages before the report -/

namespace RunPlan

open RunM

variable {σ φ : Type} [StagingArea σ] {view : σ → Staging} {plan : RunPlan}

section

variable {s t : RunState σ φ} {tables : Tables}

theorem keepsFiles_stageEntries (plan : RunPlan) (entries : List LedgerEntry) :
    KeepsFiles (plan.stageEntries entries : RunM σ φ Unit) :=
  .callUnless _ _ _

theorem keepsFiles_stageLines (plan : RunPlan) (lines : List StatementLine) :
    KeepsFiles (plan.stageLines lines : RunM σ φ Unit) :=
  .callUnless _ _ _

theorem keepsFiles_matchRecords (plan : RunPlan) (records : Intake) :
    KeepsFiles (plan.matchRecords records : RunM σ φ Unit) :=
  .callUnless _ _ _

theorem keepsFiles_discardTables (plan : RunPlan) :
    KeepsFiles (plan.discardTables : RunM σ φ Unit) :=
  .callUnless _ _ _

/-- Preparing forgets what was staged before. -/
theorem view_of_prepare (hview : MayFail view) {w : Window} {c : StagingCall}
    (h : RunM.call c (StagingArea.prepare · w) s = (.ok (), t)) :
    view t.area = ⟨some (.fresh w)⟩ := by
  have hprepare := hview.prepare w _ _ _ (area_of_call h)
  exact (congrArg Prod.snd hprepare).symm

omit [StagingArea σ] in
/-- A part that changes the tables by a call, unless there is nothing to change, changes the tables
behind the area. -/
theorem view_of_change {p : Prop} [Decidable p] {c : StagingCall}
    {op : σ → Except Failure Unit × σ} {op' : Staging → Except Failure Unit × Staging}
    {tables' : Tables} (hfollows : Follows view op op') (hnone : p → tables' = tables)
    (hop : ¬ p → op' ⟨some tables⟩ = (.ok (), ⟨some tables'⟩))
    (h : (if p then pure () else RunM.call c op : RunM σ φ Unit) s = (.ok (), t))
    (hs : view s.area = ⟨some tables⟩) : view t.area = ⟨some tables'⟩ := by
  split at h
  · next hp =>
      cases h
      rw [hnone hp]
      exact hs
  · next hp =>
      have hchange := hfollows _ _ _ (area_of_call h)
      rw [hs, hop hp] at hchange
      exact (congrArg Prod.snd hchange).symm

theorem view_of_stageEntries (hview : MayFail view) {entries : List LedgerEntry}
    (h : plan.stageEntries entries s = (.ok (), t)) (hs : view s.area = ⟨some tables⟩) :
    view t.area = ⟨some (tables.withEntries entries)⟩ :=
  view_of_change (hview.importEntries entries _)
    (fun hnone => by rw [hnone, Tables.withEntries_nil])
    (fun _ => Staging.importEntries_some tables entries _) h hs

theorem view_of_stageLines (hview : MayFail view) {lines : List StatementLine}
    (h : plan.stageLines lines s = (.ok (), t)) (hs : view s.area = ⟨some tables⟩) :
    view t.area = ⟨some (tables.withLines lines)⟩ :=
  view_of_change (hview.importLines lines _) (fun hnone => by rw [hnone, Tables.withLines_nil])
    (fun _ => Staging.importLines_some tables lines _) h hs

theorem view_of_matchRecords (hview : MayFail view) {records : Intake}
    (h : plan.matchRecords records s = (.ok (), t))
    (hs : view s.area = ⟨some (plan.stagedTables records)⟩) :
    view t.area = ⟨some (plan.matchedTables records)⟩ :=
  view_of_change (hview.matchAmounts records.smallest records.largest _) (fun hnone => if_pos hnone)
    (plan.matchAmounts_stagedTables records) h hs

omit [StagingArea σ] in
/-- A question that is answered is answered by the tables behind the area. -/
theorem answer_of_call {α : Type} {question : σ → Except Failure α × σ}
    {question' : Staging → Except Failure α × Staging} {answer : Except Failure α}
    {c : StagingCall} {x : α} (hfollows : Follows view question question')
    (hanswer : question' ⟨some tables⟩ = (answer, ⟨some tables⟩))
    (hs : view s.area = ⟨some tables⟩) (h : RunM.call c question s = (.ok x, t)) :
    answer = .ok x ∧ view t.area = ⟨some tables⟩ := by
  have hquestion := hfollows _ _ _ (area_of_call h)
  rw [hs, hanswer] at hquestion
  exact ⟨congrArg Prod.fst hquestion, (congrArg Prod.snd hquestion).symm⟩

end

/-! ### The report -/

variable [FileSystem φ]

omit [StagingArea σ] in
theorem keepsFiles_intake (plan : RunPlan) : KeepsFiles (plan.intake : RunM σ φ Intake) :=
  fun _ => rfl

/-- Files that were left alone, or in which findings were reported, as far as they could be
written. -/
def Reported (plan : RunPlan) (isFound : Findings → Prop) (files files' : φ) : Prop :=
  files' = files ∨ ∃ found, isFound found ∧ files'
    = (writeReport plan.schedule plan.report found.matched found.openEntries found.openLines
        files).2.2

theorem Reported.refl (plan : RunPlan) (isFound : Findings → Prop) (files : φ) :
    plan.Reported isFound files files :=
  Or.inl rfl

theorem Reported.mono {isFound isFound' : Findings → Prop} {files files' : φ}
    (h : plan.Reported isFound files files') (himp : ∀ found, isFound found → isFound' found) :
    plan.Reported isFound' files files' :=
  h.imp_right fun ⟨found, hfound, hwritten⟩ => ⟨found, himp found hfound, hwritten⟩

/-- Reporting ends before any file was touched, or the findings are written as a report. -/
theorem reported_exportReport (hview : MayFail view) {s : RunState σ φ} {tables : Tables}
    {files : φ} (hs : view s.area = ⟨some tables⟩) (hfiles : s.files = files) :
    plan.Reported (fun found => tables.findings = .ok found) files
      (plan.exportReport s).2.files := by
  rw [exportReport]
  refine (KeepsFiles.call _ _).bind_files hfiles (.refl ..) fun summary s₁ h₁ hfiles₁ => ?_
  have hsummary : tables.summary = .ok summary ∧ _ := answer_of_call hview.summary (by rfl) hs h₁
  refine (KeepsFiles.call _ _).bind_files hfiles₁ (.refl ..) fun matched s₂ h₂ hfiles₂ => ?_
  have hmatched : tables.matched = .ok matched ∧ _ :=
    answer_of_call hview.matched (by rfl) hsummary.2 h₂
  refine (KeepsFiles.call _ _).bind_files hfiles₂ (.refl ..) fun entries s₃ h₃ hfiles₃ => ?_
  have hentries : tables.openEntries = .ok entries ∧ _ :=
    answer_of_call hview.openEntries (by rfl) hmatched.2 h₃
  refine (KeepsFiles.call _ _).bind_files hfiles₃ (.refl ..) fun lines s₄ h₄ hfiles₄ => ?_
  have hlines : tables.openLines = .ok lines ∧ _ :=
    answer_of_call hview.openLines (by rfl) hentries.2 h₄
  refine Or.inr ⟨⟨summary, matched, entries, lines⟩, ?_, ?_⟩
  · rw [Tables.findings, hsummary.1, hmatched.1, hentries.1, hlines.1]
    rfl
  · rw [KeepsFiles.files_bind (fun files => .pure _), writeFiles_apply, hfiles₄]

omit [StagingArea σ] in
/-- What is taken in is read from the files, and the area is left alone. -/
theorem input_of_intake_ok {s t : RunState σ φ} {records : Intake}
    (h : plan.intake s = (.ok records, t)) :
    (plan.input plan.schedule s.files).1 = .ok records ∧ t.area = s.area := by
  rw [intake_apply] at h
  obtain ⟨hresult, hstate⟩ := Prod.mk.inj h
  exact ⟨hresult, (congrArg RunState.area hstate).symm⟩

/-- A run ends before any file was touched, or it has written the report of what it took in, as far
as that could be written. -/
theorem reported_run (hview : MayFail view) (plan : RunPlan) (area : σ) (files : φ) :
    plan.Reported (fun found => ∃ records, (plan.input plan.schedule files).1 = .ok records ∧
      plan.findings records = .ok found) files (plan.run area files).2.files := by
  have hrun : (plan.run area files).2.files = (plan.stages { area, files }).2.files := rfl
  rw [hrun, stages]
  refine ((KeepsFiles.call _ _).stage plan .prepare).bind_files rfl (.refl ..)
    fun _ s₁ h₁ hfiles₁ => ?_
  have hs₁ := view_of_prepare hview (stage_eq_ok h₁).2
  refine ((keepsFiles_intake plan).stage plan .intake).bind_files hfiles₁ (.refl ..)
    fun records s₂ h₂ hfiles₂ => ?_
  obtain ⟨hinput, harea⟩ := input_of_intake_ok (stage_eq_ok h₂).2
  rw [hfiles₁] at hinput
  refine ((keepsFiles_stageEntries plan records.entries).stage plan .stageLedger).bind_files hfiles₂
    (.refl ..) fun _ s₃ h₃ hfiles₃ => ?_
  have hs₃ := view_of_stageEntries hview (stage_eq_ok h₃).2 (harea ▸ hs₁)
  refine ((keepsFiles_stageLines plan records.lines).stage plan .stageStatements).bind_files hfiles₃
    (.refl ..) fun _ s₄ h₄ hfiles₄ => ?_
  have hs₄ := view_of_stageLines hview (stage_eq_ok h₄).2 hs₃
  refine ((keepsFiles_matchRecords plan records).stage plan .matching).bind_files hfiles₄ (.refl ..)
    fun _ s₅ h₅ hfiles₅ => ?_
  have hs₅ := view_of_matchRecords hview (stage_eq_ok h₅).2 hs₄
  -- the report is the only part that touches files
  have hdiscard (outcome : Outcome) : KeepsFiles (do
      plan.stage .discard plan.discardTables
      pure outcome : RunM σ φ Outcome) := by
    intro s
    rw [KeepsFiles.files_bind fun _ => .pure outcome]
    exact (keepsFiles_discardTables plan).stage plan .discard s
  rw [KeepsFiles.files_bind hdiscard]
  rcases plan.files_of_stage .reporting plan.exportReport s₅ with hstop | hgo
  · exact Or.inl (hstop.trans hfiles₅)
  rw [hgo]
  have hreport : plan.Reported (fun found => plan.findings records = .ok found) files
      (plan.exportReport { s₅ with announced := s₅.announced ++ [.stage .reporting] }).2.files :=
    reported_exportReport hview hs₅ hfiles₅
  exact hreport.mono fun _ hfound => ⟨records, hinput, hfound⟩

end RunPlan

end LedgerMatch
