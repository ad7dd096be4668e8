import LedgerMatch.Proofs.Intake
import LedgerMatch.Proofs.Report
import LedgerMatch.Proofs.Run.Steps
import LedgerMatch.Proofs.Staging.Chunks
import LedgerMatch.Proofs.Staging.Matching
import LedgerMatch.Proofs.Staging.Queries

/-!
# Runs with different numbers of workers

Two runs that differ in the number of workers and in the order in which tasks finish go through the
same stages side by side. After each part they have given the same result, have the same files and
announcements, and noticed the same things in some order; and their staging areas have the same rows
and the same pairs in some order, until a part fails.
-/

namespace LedgerMatch

/-! ### Areas with the same rows and pairs -/

/-- Staged rows of banks whose codes hold no slash. -/
def PlainRows (t : Tables) : Prop := ∀ r ∈ t.statements, Text.IsPlain r.bank

/-- Sound tables that differ at most in the order of their pairs. -/
structure SameTables (t u : Tables) : Prop extends t.Reordered u where
  sound : t.Sound
  sound' : u.Sound
  plain : PlainRows t

/-- Areas without tables, or with tables that differ at most in the order of their pairs. -/
inductive SameStaging : Staging → Staging → Prop where
  | none : SameStaging ⟨none⟩ ⟨none⟩
  | some {t u : Tables} (h : SameTables t u) : SameStaging ⟨some t⟩ ⟨some u⟩

namespace SameTables

variable {t u : Tables}

theorem fresh (w : Window) : SameTables (.fresh w) (.fresh w) where
  scope := rfl
  ledger := rfl
  statements := rfl
  pairs := .refl _
  sound := Tables.fresh_sound w
  sound' := Tables.fresh_sound w
  plain := by simp [PlainRows, Tables.fresh]

/-- Entries are staged alike in any numbers of chunks. -/
theorem importEntries (h : SameTables t u) (es : List LedgerEntry) (n m : Nat) :
    SameTables (t.importEntries es n).2 (u.importEntries es m).2 := by
  have hsound := (Tables.importEntries_sound h.sound es n).1
  have hsound' := (Tables.importEntries_sound h.sound' es m).1
  rw [Tables.importEntries_eq] at hsound hsound'
  rw [Tables.importEntries_eq, Tables.importEntries_eq]
  refine { sound := hsound, sound' := hsound', scope := h.scope, statements := h.statements,
           pairs := h.pairs, plain := h.plain, ledger := ?_ }
  simp only [Tables.withEntries, h.ledger]

/-- Lines of banks without slashes are staged alike in any numbers of chunks. -/
theorem importLines (h : SameTables t u) {ls : List StatementLine}
    (hplain : ∀ l ∈ ls, Text.IsPlain l.bank) (n m : Nat) :
    SameTables (t.importLines ls n).2 (u.importLines ls m).2 := by
  have hsound := (Tables.importLines_sound h.sound ls n).1
  have hsound' := (Tables.importLines_sound h.sound' ls m).1
  rw [Tables.importLines_eq] at hsound hsound'
  rw [Tables.importLines_eq, Tables.importLines_eq]
  refine { sound := hsound, sound' := hsound', scope := h.scope, ledger := h.ledger,
           pairs := h.pairs, plain := ?_, statements := ?_ }
  · simp only [Tables.withLines, h.statements]
  · intro r hr
    rcases List.mem_append.1 hr with hold | hnew
    · exact h.plain r hold
    · obtain ⟨l, hl, rfl⟩ := List.mem_map.1 hnew
      exact hplain l.1 (List.fst_mem_of_mem_zipIdx hl)

/-- Rows are matched alike in any numbers of buckets. -/
theorem matchAmounts (h : SameTables t u) (smallest largest : Amount) {n m : Nat}
    (hn : n ≤ wordLimit) (hm : m ≤ wordLimit) :
    (t.matchAmounts smallest largest n).1 = .ok () ∧ (u.matchAmounts smallest largest m).1 = .ok () ∧
      SameTables (t.matchAmounts smallest largest n).2 (u.matchAmounts smallest largest m).2 := by
  have hsound := (Tables.matchAmounts_sound h.sound smallest largest n).1
  have hsound' := (Tables.matchAmounts_sound h.sound' smallest largest m).1
  obtain ⟨added, hadded, hmatch⟩ := h.sound.matchAmounts_eq smallest largest hn
  obtain ⟨added', hadded', hmatch'⟩ := h.sound'.matchAmounts_eq smallest largest hm
  have hpairs : u.pairsFrom smallest.real = t.pairsFrom smallest.real := by
    rw [Tables.pairsFrom, Tables.pairsFrom, h.openLedger_eq, h.openStatements_eq]
  rw [hmatch] at hsound
  rw [hmatch'] at hsound'
  rw [hmatch, hmatch']
  rw [hpairs] at hadded'
  exact ⟨rfl, rfl, { sound := hsound, sound' := hsound', scope := h.scope, ledger := h.ledger,
                     statements := h.statements, plain := h.plain,
                     pairs := h.pairs.append (hadded.trans hadded'.symm) }⟩

/-- The lines left over are of banks whose codes hold no slash. -/
theorem plainBanks (h : SameTables t u) {lines : List OpenLine} (hlines : t.openLines = .ok lines) :
    PlainBanks lines := by
  intro l hl
  obtain ⟨r, hr, hbank⟩ := Tables.exists_row_of_mem_openLines hlines hl
  rw [hbank]
  exact h.plain r hr

end SameTables

/-! ### Two runs side by side -/

/-- What a run works on: an area that keeps its tables, and files that may fail. -/
abbrev WorkState := RunState Staging FaultyFiles

/-- Two runs with the same files and announcements, and the same warnings in some order. -/
structure SameSoFar (s u : WorkState) : Prop where
  files : s.files = u.files
  announced : s.announced = u.announced
  warnings : s.warnings.Perm u.warnings

/-- Two runs that can go on alike. -/
structure InStep (s u : WorkState) : Prop extends SameSoFar s u where
  area : SameStaging s.area u.area

/-- Runs that are the same so far are the same after their ends are announced. -/
theorem SameSoFar.conclude {s u : WorkState} (h : SameSoFar s u) :
    SameSoFar (RunPlan.conclude s) (RunPlan.conclude u) :=
  ⟨h.files, congrArg (· ++ [Announcement.finished]) h.announced, h.warnings⟩

/-- Two parts of runs have ended alike: with one value and in step, or with one failure. -/
inductive EndsAlike {α : Type} (P : α → Prop) :
    Except Failure α × WorkState → Except Failure α × WorkState → Prop where
  | ok {a : α} {s u : WorkState} (ha : P a) (h : InStep s u) : EndsAlike P (.ok a, s) (.ok a, u)
  | error {e : Failure} {s u : WorkState} (h : SameSoFar s u) :
      EndsAlike P (.error e, s) (.error e, u)

/-- Two parts that end alike from runs in step. -/
def Alike {α : Type} (P : α → Prop) (op op' : RunM Staging FaultyFiles α) : Prop :=
  ∀ s u, InStep s u → EndsAlike P (op s) (op' u)

namespace Alike

variable {α β : Type} {P : α → Prop} {Q : β → Prop}

theorem pure {a : α} (ha : P a) : Alike P (pure a) (pure a) :=
  fun _ _ h => .ok ha h

/-- Parts that follow each other. -/
theorem bind {op op' : RunM Staging FaultyFiles α} {f f' : α → RunM Staging FaultyFiles β}
    (hop : Alike P op op') (hf : ∀ a, P a → Alike Q (f a) (f' a)) :
    Alike Q (op >>= f) (op' >>= f') := by
  intro s u h
  rw [RunM.bind_apply, RunM.bind_apply]
  have hends := hop s u h
  revert hends
  generalize op s = left
  generalize op' u = right
  intro hends
  cases hends with
  | ok ha hstep => exact hf _ ha _ _ hstep
  | error hsame => exact .error hsame

/-- A stage of two runs that are cancelled at the same point. -/
theorem stage {plan plan' : RunPlan} (hcancelled : plan'.cancelledAt = plan.cancelledAt)
    (stage : Stage) {op op' : RunM Staging FaultyFiles α} (hop : Alike P op op') :
    Alike P (plan.stage stage op) (plan'.stage stage op') := by
  intro s u h
  have hsame : plan'.isCancelled u.announced.length = plan.isCancelled s.announced.length := by
    rw [RunPlan.isCancelled, RunPlan.isCancelled, hcancelled, h.announced]
  rw [RunPlan.stage_apply, RunPlan.stage_apply, hsame]
  split
  · exact .error h.toSameSoFar
  · have hnext : InStep { s with announced := s.announced ++ [.stage stage] }
        { u with announced := u.announced ++ [.stage stage] } :=
      { h with announced := congrArg (· ++ [Announcement.stage stage]) h.announced }
    have hends := hop _ _ hnext
    unfold RunM.within
    revert hends
    generalize op _ = left
    generalize op' _ = right
    intro hends
    cases hends with
    | ok ha hstep => exact .ok ha hstep
    | error hsofar => exact .error hsofar

/-- An operation that ends alike in areas that are alike. -/
theorem call (c c' : StagingCall) {op op' : Staging → Except Failure α × Staging}
    (hop : ∀ a b, SameStaging a b → (op a).1 = (op' b).1 ∧
      ∀ x, (op a).1 = .ok x → P x ∧ SameStaging (op a).2 (op' b).2) :
    Alike P (RunM.call c op) (RunM.call c' op') := by
  intro s u h
  obtain ⟨hresult, harea⟩ := hop s.area u.area h.area
  unfold RunM.call
  revert hresult harea
  generalize op s.area = left
  generalize op' u.area = right
  obtain ⟨r, a⟩ := left
  obtain ⟨r', b⟩ := right
  rintro rfl harea
  cases r with
  | error e => exact .error ⟨h.files, h.announced, h.warnings⟩
  | ok x => exact .ok (harea x rfl).1 { h with area := (harea x rfl).2 }

/-- Asking areas that are alike. -/
theorem query (c : StagingCall) {ask : Tables → Except Failure α}
    (hask : ∀ t u, SameTables t u → ask u = ask t ∧ ∀ x, ask t = .ok x → P x) :
    Alike P (RunM.call c fun s => (s.query ask, s)) (RunM.call c fun s => (s.query ask, s)) := by
  refine call c c fun a b hab => ?_
  cases hab with
  | none =>
      refine ⟨rfl, fun x hx => ?_⟩
      cases hx
  | some htables =>
      obtain ⟨hsame, hvalue⟩ := hask _ _ htables
      exact ⟨hsame.symm, fun x hx => ⟨hvalue x hx, .some htables⟩⟩

/-- Changing the tables of areas that are alike. -/
theorem update (c c' : StagingCall) {change change' : Tables → Except Failure Unit × Tables}
    (hchange : ∀ t u, SameTables t u → (change t).1 = (change' u).1 ∧
      ((change t).1 = .ok () → SameTables (change t).2 (change' u).2)) :
    Alike (fun _ => True) (RunM.call c (Staging.update · change))
      (RunM.call c' (Staging.update · change')) := by
  refine call c c' fun a b hab => ?_
  cases hab with
  | none =>
      refine ⟨rfl, fun x hx => ?_⟩
      cases hx
  | some htables =>
      obtain ⟨hsame, hnext⟩ := hchange _ _ htables
      exact ⟨hsame, fun x hx => ⟨trivial, .some (hnext hx)⟩⟩

end Alike

/-! ### The stages -/

namespace RunPlan

/-- A plan with another number of workers, whose tasks finish in another order. -/
def withWorkers (plan : RunPlan) (workers : Nat) (schedule : Schedule) : RunPlan :=
  { plan with settings := { plan.settings with workers }, schedule }

variable (plan : RunPlan) {n m : Nat} (schedule schedule' : Schedule)

@[simp] theorem schedule_withWorkers : (plan.withWorkers n schedule).schedule = schedule := rfl

@[simp] theorem report_withWorkers : (plan.withWorkers n schedule).report = plan.report := rfl

@[simp] theorem input_withWorkers (files : FaultyFiles) :
    (plan.withWorkers n schedule).input schedule' files = plan.input schedule' files :=
  rfl

theorem alike_prepare :
    Alike (fun _ => True) (RunM.call (.plain .prepare) (StagingArea.prepare · plan.window))
      (RunM.call (.plain .prepare) (StagingArea.prepare · plan.window)) :=
  .call _ _ fun _ _ _ => ⟨rfl, fun _ _ => ⟨trivial, .some (.fresh plan.window)⟩⟩

theorem alike_intake (hregistry : plan.registry.AddsNoSlash) :
    Alike (fun records => ∀ l ∈ records.lines, Text.IsPlain l.bank)
      (plan.withWorkers n schedule).intake (plan.withWorkers m schedule').intake := by
  intro s u h
  have hread : (plan.input schedule s.files).1 = (plan.input schedule' u.files).1 ∧
      (plan.input schedule s.files).2.Perm (plan.input schedule' u.files).2 := by
    rw [← h.files]
    exact Intake.read_schedule schedule schedule' s.files _ _ _ _ _
  have hplain : ∀ records, (plan.input schedule s.files).1 = .ok records →
      ∀ l ∈ records.lines, Text.IsPlain l.bank :=
    fun records => Intake.isPlain_bank_of_read hregistry
  rw [intake_apply, intake_apply, input_withWorkers, input_withWorkers, schedule_withWorkers,
    schedule_withWorkers, ← hread.1]
  have hnext : InStep { s with warnings := s.warnings ++ (plan.input schedule s.files).2 }
      { u with warnings := u.warnings ++ (plan.input schedule' u.files).2 } :=
    { h with warnings := h.warnings.append hread.2 }
  cases hresult : (plan.input schedule s.files).1 with
  | ok records => exact .ok (hplain records hresult) hnext
  | error e => exact .error hnext.toSameSoFar

theorem alike_stageEntries (entries : List LedgerEntry) :
    Alike (fun _ => True) ((plan.withWorkers n schedule).stageEntries entries)
      ((plan.withWorkers m schedule').stageEntries entries) := by
  unfold stageEntries
  dsimp only
  split
  · exact .pure trivial
  · next hne =>
      have himport : ∀ k : Nat, (fun s : Staging => StagingArea.importEntries s entries k)
          = (Staging.update · fun t => t.importEntries entries k) := by
        intro k
        funext s
        exact if_neg hne
      rw [himport, himport]
      refine .update _ _ fun t u htu => ⟨?_, fun _ => htu.importEntries entries _ _⟩
      rw [Tables.importEntries_eq, Tables.importEntries_eq]

theorem alike_stageLines {lines : List StatementLine}
    (hplain : ∀ l ∈ lines, Text.IsPlain l.bank) :
    Alike (fun _ => True) ((plan.withWorkers n schedule).stageLines lines)
      ((plan.withWorkers m schedule').stageLines lines) := by
  unfold stageLines
  dsimp only
  split
  · exact .pure trivial
  · next hne =>
      have himport : ∀ k : Nat, (fun s : Staging => StagingArea.importLines s lines k)
          = (Staging.update · fun t => t.importLines lines k) := by
        intro k
        funext s
        exact if_neg hne
      rw [himport, himport]
      refine .update _ _ fun t u htu => ⟨?_, fun _ => htu.importLines hplain _ _⟩
      rw [Tables.importLines_eq, Tables.importLines_eq]

theorem alike_matchRecords (hn : n * 2 ≤ wordLimit) (hm : m * 2 ≤ wordLimit) (records : Intake) :
    Alike (fun _ => True) ((plan.withWorkers n schedule).matchRecords records)
      ((plan.withWorkers m schedule').matchRecords records) := by
  unfold matchRecords
  dsimp only
  split
  · exact .pure trivial
  · refine .update _ _ fun t u htu => ?_
    obtain ⟨hok, hok', hnext⟩ := htu.matchAmounts records.smallest records.largest hn hm
    exact ⟨hok.trans hok'.symm, fun _ => hnext⟩

theorem alike_writeFiles (matched : List MatchedRow) (entries : List OpenEntry)
    {lines : List OpenLine} (hplain : PlainBanks lines) :
    Alike (fun _ => True) ((plan.withWorkers n schedule).writeFiles matched entries lines)
      ((plan.withWorkers m schedule').writeFiles matched entries lines) := by
  intro s u h
  simp only [writeFiles_apply, schedule_withWorkers, report_withWorkers, ← h.files]
  rw [writeReport_schedule schedule' schedule plan.report matched entries hplain]
  generalize writeReport schedule plan.report matched entries lines s.files = written
  obtain ⟨result, warnings, files⟩ := written
  have hnext : InStep { s with files, warnings := s.warnings ++ warnings }
      { u with files, warnings := u.warnings ++ warnings } :=
    { h with files := rfl, warnings := h.warnings.append_right warnings }
  cases result with
  | ok written => exact .ok trivial hnext
  | error e => exact .error hnext.toSameSoFar

theorem alike_exportReport :
    Alike (fun _ => True) (plan.withWorkers n schedule).exportReport
      (plan.withWorkers m schedule').exportReport := by
  refine .bind (P := fun _ => True)
    (.query _ fun t u h => ⟨h.summary_eq h.sound h.sound', fun _ _ => trivial⟩) fun summary _ => ?_
  refine .bind (P := fun _ => True)
    (.query _ fun t u h => ⟨h.matched_eq h.sound, fun _ _ => trivial⟩) fun matched _ => ?_
  refine .bind (P := fun _ => True) (.query _ fun t u h => ⟨h.openEntries_eq, fun _ _ => trivial⟩)
    fun entries _ => ?_
  refine .bind (P := PlainBanks) (.query _ fun t u h => ⟨h.openLines_eq, fun _ => h.plainBanks⟩)
    fun lines hplain => ?_
  refine .bind (plan.alike_writeFiles schedule schedule' matched entries hplain) fun files _ => ?_
  exact .pure trivial

theorem alike_discardTables :
    Alike (fun _ => True) (plan.withWorkers n schedule).discardTables
      (plan.withWorkers m schedule').discardTables := by
  rw [discardTables]
  show Alike _ (if plan.settings.isDebug then _ else _) (if plan.settings.isDebug then _ else _)
  split
  · exact .pure trivial
  · exact .call _ _ fun _ _ _ => ⟨rfl, fun _ _ => ⟨trivial, .none⟩⟩

/-- Two runs go through all stages side by side. -/
theorem alike_stages (hregistry : plan.registry.AddsNoSlash) (hn : n * 2 ≤ wordLimit)
    (hm : m * 2 ≤ wordLimit) :
    Alike (fun _ => True) (plan.withWorkers n schedule).stages
      (plan.withWorkers m schedule').stages := by
  refine .bind (.stage rfl _ plan.alike_prepare) fun _ _ => ?_
  refine .bind (.stage rfl _ (plan.alike_intake schedule schedule' hregistry)) fun records hplain => ?_
  refine .bind (.stage rfl _ (plan.alike_stageEntries schedule schedule' _)) fun _ _ => ?_
  refine .bind (.stage rfl _ (plan.alike_stageLines schedule schedule' hplain)) fun _ _ => ?_
  refine .bind (.stage rfl _ (plan.alike_matchRecords schedule schedule' hn hm records))
    fun _ _ => ?_
  refine .bind (.stage rfl _ (plan.alike_exportReport schedule schedule')) fun outcome _ => ?_
  refine .bind (.stage rfl _ (plan.alike_discardTables schedule schedule')) fun _ _ => ?_
  exact .pure trivial

/-! ### Whole runs -/

/-- The number of workers and the order in which tasks finish cannot be told from the result of a
run, from the files it leaves, from what it announces, or, but for the order, from its warnings.
The makers of the registry, which may come from elsewhere, add no slash to the code of a bank: the
code names the file of the bank's open lines. Every reader of a layout meets this, and so does the
registry of this program (`Registry.standard_addsNoSlash`). -/
theorem run_same_for_all_workers (hregistry : plan.registry.AddsNoSlash)
    (hn : n * 2 < wordLimit) (hm : m * 2 < wordLimit) (files : FaultyFiles) :
    ((plan.withWorkers n schedule).run Staging.empty files).1
        = ((plan.withWorkers m schedule').run Staging.empty files).1 ∧
      SameSoFar ((plan.withWorkers n schedule).run Staging.empty files).2
        ((plan.withWorkers m schedule').run Staging.empty files).2 := by
  have hstart : InStep { area := Staging.empty, files } { area := Staging.empty, files } :=
    { files := rfl, announced := rfl, warnings := .refl [], area := .none }
  have hends := plan.alike_stages schedule schedule' hregistry (Nat.le_of_lt hn) (Nat.le_of_lt hm)
    _ _ hstart
  unfold run
  revert hends
  generalize (plan.withWorkers n schedule).stages
    (⟨Staging.empty, files, [], [], []⟩ : WorkState) = left
  generalize (plan.withWorkers m schedule').stages
    (⟨Staging.empty, files, [], [], []⟩ : WorkState) = right
  intro hends
  cases hends with
  | ok _ h => exact ⟨rfl, h.conclude⟩
  | error h => exact ⟨rfl, h.conclude⟩

/-- A plan for one day and one bank. -/
def dayPlan : RunPlan where
  settings := { ledgerRoot := ⟨"system"⟩, statementRoot := ⟨"bank"⟩, reportRoot := ⟨"report"⟩,
                banks := ["BCA"], first := ⟨2025, 3, 7, by decide⟩, last := ⟨2025, 3, 7, by decide⟩,
                workers := 1 }
  window := ⟨⟨2025, 3, 7, by decide⟩, ⟨2025, 3, 7, by decide⟩, ["BCA"]⟩
  registry := .standard
  timestamp := 7

/-- An entry, a line that matches it, a line left over, and a file that cannot be opened. -/
def dayFiles : FaultyFiles where
  files := .ofList
    [(⟨"system/a.csv"⟩, Text.encode "TrxID,TransactionTime,Type,Amount\nS,2025-03-07 10:00:00,DEBIT,5\n"),
      (⟨"system/b.csv"⟩, []),
      (⟨"bank/bca/c.csv"⟩, Text.encode
        "BCAUniqueIdentifier,BCADate,BCAAmount\nB1,2025-03-07,5\nB2,2025-03-07,6\n")]
  faults := { openFile := [⟨"system/b.csv"⟩] }

theorem dayPlan_run_same :
    dayPlan.registry.AddsNoSlash ∧ 1 * 2 < wordLimit ∧ 4 * 2 < wordLimit ∧
      ((dayPlan.withWorkers 1 .sequential).run Staging.empty dayFiles).1
          = ((dayPlan.withWorkers 4 .reversed).run Staging.empty dayFiles).1 ∧
        SameSoFar ((dayPlan.withWorkers 1 .sequential).run Staging.empty dayFiles).2
          ((dayPlan.withWorkers 4 .reversed).run Staging.empty dayFiles).2 :=
  ⟨Registry.standard_addsNoSlash, by decide, by decide,
    dayPlan.run_same_for_all_workers .sequential .reversed Registry.standard_addsNoSlash
      (by decide) (by decide) dayFiles⟩

end RunPlan

end LedgerMatch
