import LedgerMatch.Proofs.Files.Contents
import LedgerMatch.Proofs.Report

/-!
# Every row is in one file

A report that was written without a warning has a file for each list of rows, and one for each bank.
Their paths differ, none of them is written over by another, and together they hold the rows of the
report, each as often as it was reported.
-/

namespace LedgerMatch

/-! ### Files with rows -/

/-- A row of a report. -/
inductive ReportRow where
  | matched (r : MatchedRow)
  | openEntry (r : OpenEntry)
  | openLine (r : OpenLine)
  deriving DecidableEq

namespace ReportRow

def header : ReportRow → List String
  | matched _ => MatchedRow.header
  | openEntry _ => OpenEntry.header
  | openLine _ => OpenLine.header

def texts : ReportRow → List String
  | matched r => r.texts
  | openEntry r => r.texts
  | openLine r => r.texts

theorem texts_comp_matched : texts ∘ matched = MatchedRow.texts := rfl

theorem texts_comp_openEntry : texts ∘ openEntry = OpenEntry.texts := rfl

theorem texts_comp_openLine : texts ∘ openLine = OpenLine.texts := rfl

/-- All rows of a report. -/
def all (matched : List MatchedRow) (entries : List OpenEntry) (lines : List OpenLine) :
    List ReportRow :=
  matched.map .matched ++ entries.map .openEntry ++ lines.map .openLine

end ReportRow

/-- A file of a report with the rows that belong in it. -/
structure ReportFile where
  path : Path
  rows : List ReportRow

namespace ReportFile

/-- The file of rows, if there are any. -/
def ofRows (path : Path) (rows : List ReportRow) : List ReportFile :=
  if rows = [] then [] else [⟨path, rows⟩]

theorem ofRows_nil (path : Path) : ofRows path [] = [] := if_pos rfl

theorem ofRows_of_ne_nil {rows : List ReportRow} (h : rows ≠ []) (path : Path) :
    ofRows path rows = [⟨path, rows⟩] :=
  if_neg h

theorem path_of_mem_ofRows {path : Path} {rows : List ReportRow} {f : ReportFile}
    (h : f ∈ ofRows path rows) : f.path = path := by
  rw [ofRows] at h
  split at h
  · cases h
  · rw [List.mem_singleton.1 h]

theorem map_path_ofRows_sublist (path : Path) (rows : List ReportRow) :
    ((ofRows path rows).map ReportFile.path).Sublist [path] := by
  rw [ofRows]
  split
  · exact List.nil_sublist _
  · exact List.Sublist.refl _

theorem flatMap_rows_ofRows (path : Path) (rows : List ReportRow) :
    (ofRows path rows).flatMap ReportFile.rows = rows := by
  by_cases h : rows = []
  · rw [h, ofRows_nil, List.flatMap_nil]
  · rw [ofRows_of_ne_nil h, List.flatMap_singleton]

end ReportFile

/-- The paths of the files of a report. -/
def ReportFiles.paths (files : ReportFiles) : List Path :=
  files.matched.toList ++ files.openEntries.toList ++ files.openLines.map Prod.snd

section

variable {φ : Type} [FileSystem φ] [HoldsContents φ]

open HoldsContents

/-- The file consists of the rows under the header that belongs to them. -/
def ReportFile.IsWritten (fs : φ) (f : ReportFile) : Prop :=
  ∃ header, (∀ row ∈ f.rows, row.header = header) ∧
    content? fs f.path = some (Text.encode (Csv.document header (f.rows.map ReportRow.texts)))

/-- Each of the rows is in one of the files, and the files part from each other. -/
def Filed (fs : φ) (files : ReportFiles) (rows : List ReportRow) : Prop :=
  ∃ reports : List ReportFile, reports.map ReportFile.path = files.paths ∧
    files.paths.Pairwise Path.Forks ∧ (∀ f ∈ reports, f.IsWritten fs) ∧
    (reports.flatMap ReportFile.rows).Perm rows

/-! ### Writing rows -/

variable {fs fs' : φ} {path : Path} {header : List String}

theorem writeRows_eq_ok {rows : List (List String)} {file : Option Path}
    (h : writeRows path header rows fs = (.ok file, fs')) :
    (rows = [] ∧ file = none) ∨ (rows ≠ [] ∧ file = some path ∧
      content? fs' path = some (Text.encode (Csv.document header rows))) := by
  rw [writeRows] at h
  split at h
  · next hnil =>
      cases h
      exact Or.inl ⟨hnil, rfl⟩
  · next hne =>
      split at h
      · next hwrite =>
          cases h
          exact Or.inr ⟨hne, rfl, content_write hwrite⟩
      · cases h

/-- Rows that could be written are in the file that is returned. -/
theorem isWritten_of_writeRows {rows : List ReportRow} {file : Option Path}
    (h : writeRows path header (rows.map ReportRow.texts) fs = (.ok file, fs'))
    (hheader : ∀ row ∈ rows, row.header = header) :
    (ReportFile.ofRows path rows).map ReportFile.path = file.toList ∧
      ∀ f ∈ ReportFile.ofRows path rows, f.IsWritten fs' := by
  rcases writeRows_eq_ok h with ⟨hnil, rfl⟩ | ⟨hne, rfl, hcontent⟩
  · rw [List.map_eq_nil_iff.1 hnil, ReportFile.ofRows_nil]
    exact ⟨rfl, fun f hf => by cases hf⟩
  · rw [ReportFile.ofRows_of_ne_nil fun hnil => hne (List.map_eq_nil_iff.2 hnil)]
    refine ⟨rfl, fun f hf => ?_⟩
    rw [List.mem_singleton.1 hf]
    exact ⟨header, hheader, hcontent⟩

/-- A written file stays as it is when rows are written elsewhere. -/
theorem ReportFile.IsWritten.writeRows {f : ReportFile} (hf : f.IsWritten fs)
    (hforks : path.Forks f.path) (header : List String) (rows : List (List String)) :
    f.IsWritten (writeRows path header rows fs).2 := by
  obtain ⟨own, hown, hcontent⟩ := hf
  refine ⟨own, hown, ?_⟩
  have hkept : content? (FileSystem.write fs path (Text.encode (Csv.document header rows))).2 f.path
      = some (Text.encode (Csv.document own (f.rows.map ReportRow.texts))) :=
    content_write_of_forks hforks hcontent
  rw [LedgerMatch.writeRows]
  split
  · exact hcontent
  · split
    · next hwrite =>
        rw [hwrite] at hkept
        exact hkept
    · next hwrite =>
        rw [hwrite] at hkept
        exact hkept

/-! ### Writing the files of banks -/

/-- The file of a bank with the lines of the bank. -/
def bankReport (plan : ReportPlan) (lines : List OpenLine) (bank : String) : ReportFile :=
  ⟨plan.bankPath bank, (linesOf lines bank).map .openLine⟩

@[simp] theorem path_bankReport (plan : ReportPlan) (lines : List OpenLine) (bank : String) :
    (bankReport plan lines bank).path = plan.bankPath bank := by
  rw [bankReport]

theorem path_comp_bankReport (plan : ReportPlan) (lines : List OpenLine) :
    ReportFile.path ∘ bankReport plan lines = plan.bankPath :=
  funext (path_bankReport plan lines)

@[simp] theorem rows_bankReport (plan : ReportPlan) (lines : List OpenLine) (bank : String) :
    (bankReport plan lines bank).rows = (linesOf lines bank).map .openLine := by
  rw [bankReport]

theorem isPlain_of_mem_banksOf {lines : List OpenLine} (h : PlainBanks lines) :
    ∀ bank ∈ banksOf lines, Text.IsPlain bank := by
  intro bank hbank
  obtain ⟨l, hl, rfl⟩ := mem_banksOf.1 hbank
  exact Text.isPlain_upper (h l hl)

theorem linesOf_ne_nil {lines : List OpenLine} {bank : String} (h : bank ∈ banksOf lines) :
    linesOf lines bank ≠ [] := by
  obtain ⟨l, hl, rfl⟩ := mem_banksOf.1 h
  exact List.ne_nil_of_mem (List.mem_filter.2 ⟨hl, beq_self_eq_true _⟩)

/-- The lines of all banks are the lines. -/
theorem flatMap_rows_bankReport (plan : ReportPlan) (lines : List OpenLine) :
    (((banksOf lines).map (bankReport plan lines)).flatMap ReportFile.rows).Perm
      (lines.map .openLine) := by
  have hgroups : ((banksOf lines).flatMap fun bank => linesOf lines bank).Perm lines :=
    flatMap_filter_perm (nodup_banksOf lines) fun l hl => mem_banksOf.2 ⟨l, hl, rfl⟩
  have hrows : ((banksOf lines).map (bankReport plan lines)).flatMap ReportFile.rows
      = ((banksOf lines).flatMap fun bank => linesOf lines bank).map ReportRow.openLine := by
    rw [List.flatMap_map, List.map_flatMap]
    simp only [rows_bankReport]
  rw [hrows]
  exact hgroups.map _

/-- What the file of a bank is after it was written. -/
def BankWritten (plan : ReportPlan) (lines : List OpenLine) (bank : String)
    (result : Except Failure (Option Path)) (fs : φ) : Prop :=
  ∀ file, result = .ok file →
    file = some (plan.bankPath bank) ∧ (bankReport plan lines bank).IsWritten fs

theorem BankWritten.writeRows {plan : ReportPlan} {lines : List OpenLine} {bank : String}
    {result : Except Failure (Option Path)} (h : BankWritten plan lines bank result fs)
    (hforks : path.Forks (plan.bankPath bank)) (header : List String) (rows : List (List String)) :
    BankWritten plan lines bank result (writeRows path header rows fs).2 := by
  intro file hok
  obtain ⟨hfile, hreport⟩ := h file hok
  have hother : path.Forks (bankReport plan lines bank).path := by
    rw [path_bankReport]
    exact hforks
  exact ⟨hfile, hreport.writeRows hother header rows⟩

/-- Writing the file of a bank, and what the others keep of it. -/
theorem leaves_bankReports (plan : ReportPlan) {lines : List OpenLine} (h : PlainBanks lines) :
    Schedule.Leaves (fun bank result (fs : φ) => BankWritten plan lines bank result fs)
      (banksOf lines) fun bank =>
      writeRows (plan.bankPath bank) OpenLine.header ((linesOf lines bank).map OpenLine.texts) where
  done := by
    intro bank hbank fs file hok
    have hne : (linesOf lines bank).map OpenLine.texts ≠ [] :=
      fun hnil => linesOf_ne_nil hbank (List.map_eq_nil_iff.1 hnil)
    generalize hwrite : writeRows (plan.bankPath bank) OpenLine.header
      ((linesOf lines bank).map OpenLine.texts) fs = written at hok ⊢
    obtain ⟨result, fs'⟩ := written
    cases hok
    rcases writeRows_eq_ok hwrite with ⟨hnil, -⟩ | ⟨-, hfile, hcontent⟩
    · exact (hne hnil).elim
    · refine ⟨hfile, OpenLine.header, ?_, ?_⟩
      · intro row hrow
        rw [rows_bankReport] at hrow
        obtain ⟨l, -, rfl⟩ := List.mem_map.1 hrow
        rfl
      · rw [path_bankReport, rows_bankReport, List.map_map, ReportRow.texts_comp_openLine]
        exact hcontent
  kept := by
    refine (pairwise_bankPath plan h).imp ?_
    intro bank bank' hforks result fs
    exact ⟨fun hwritten => hwritten.writeRows hforks.symm _ _,
      fun hwritten => hwritten.writeRows hforks _ _⟩

/-- Without a warning every bank has its file. -/
theorem files_of_bankWritten {plan : ReportPlan} {lines : List OpenLine} {banks : List String}
    {results : List (Except Failure (Option Path))}
    (hall : List.Forall₂ (fun bank result => BankWritten plan lines bank result fs) banks results)
    (hquiet : ((banks.zip results).map fun r => bankFile r.1 r.2).flatMap (·.2) = []) :
    (((banks.zip results).map fun r => bankFile r.1 r.2).filterMap (·.1)).map Prod.snd
        = banks.map plan.bankPath ∧
      ∀ bank ∈ banks, (bankReport plan lines bank).IsWritten fs := by
  induction hall with
  | nil => exact ⟨rfl, fun bank hbank => by cases hbank⟩
  | @cons bank result banks results hbank _ ih =>
      rw [List.zip_cons_cons, List.map_cons, List.flatMap_cons, List.append_eq_nil_iff] at hquiet
      obtain ⟨hpaths, hwritten⟩ := ih hquiet.2
      cases result with
      | error failure => cases hquiet.1
      | ok file =>
          obtain ⟨rfl, hreport⟩ := hbank file rfl
          have hfile : (bankFile bank (.ok (some (plan.bankPath bank)))).1
              = some (bank, plan.bankPath bank) := rfl
          constructor
          · rw [List.zip_cons_cons, List.map_cons, List.map_cons, List.filterMap_cons_some hfile,
              List.map_cons, hpaths]
          · intro other hother
            rcases List.mem_cons.1 hother with rfl | hrest
            · exact hreport
            · exact hwritten other hrest

/-- Without a warning the lines of every bank are in a file of their own. -/
theorem writeBanks_filed (schedule : Schedule) (plan : ReportPlan) {lines : List OpenLine}
    (h : PlainBanks lines) (hquiet : (writeBanks schedule plan lines fs).2.1 = []) :
    (writeBanks schedule plan lines fs).1.map Prod.snd = (banksOf lines).map plan.bankPath ∧
      ∀ bank ∈ banksOf lines,
        (bankReport plan lines bank).IsWritten (writeBanks schedule plan lines fs).2.2 :=
  files_of_bankWritten ((leaves_bankReports plan h).run schedule fs) hquiet

/-- A written file stays as it is when the files of banks are written elsewhere. -/
theorem ReportFile.IsWritten.writeBanks {f : ReportFile} (hf : f.IsWritten fs)
    (schedule : Schedule) {plan : ReportPlan} {lines : List OpenLine}
    (hforks : ∀ bank ∈ banksOf lines, (plan.bankPath bank).Forks f.path) :
    f.IsWritten (writeBanks schedule plan lines fs).2.2 := by
  refine Schedule.run_keeps (I := fun fs => f.IsWritten fs) ?_ schedule hf
  intro task htask fs hfs
  obtain ⟨bank, hbank, rfl⟩ := List.mem_map.1 htask
  exact hfs.writeRows (hforks bank hbank) _ _

/-! ### Writing a report -/

omit [HoldsContents φ] in
/-- The steps of a report that was written. -/
theorem writeReport_eq_ok {schedule : Schedule} {plan : ReportPlan} {matched : List MatchedRow}
    {entries : List OpenEntry} {lines : List OpenLine} {files : ReportFiles}
    {warnings : List Warning}
    (h : writeReport schedule plan matched entries lines fs = (.ok files, warnings, fs')) :
    ∃ (fs₁ fs₂ fs₃ : φ),
      writeRows plan.matchedPath MatchedRow.header (matched.map MatchedRow.texts) fs₁
          = (.ok files.matched, fs₂) ∧
        writeRows plan.openEntriesPath OpenEntry.header (entries.map OpenEntry.texts) fs₂
          = (.ok files.openEntries, fs₃) ∧
        writeBanks schedule plan lines fs₃ = (files.openLines, warnings, fs') := by
  rw [writeReport] at h
  split at h
  · cases h
  · next fs₁ _ =>
      split at h
      · cases h
      · next hmatched =>
          dsimp only at h
          split at h
          · cases h
          · next hentries =>
              cases h
              exact ⟨_, _, _, hmatched, hentries, rfl⟩

omit [HoldsContents φ] in
/-- Writing a report warns of nothing but files of banks that could not be written. -/
theorem exists_of_mem_warnings {schedule : Schedule} {plan : ReportPlan}
    {matched : List MatchedRow} {entries : List OpenEntry} {lines : List OpenLine}
    {files : ReportFiles} {warnings : List Warning}
    (h : writeReport schedule plan matched entries lines fs = (.ok files, warnings, fs'))
    {w : Warning} (hw : w ∈ warnings) : ∃ bank failure, w = .bankReportNotWritten bank failure := by
  obtain ⟨-, -, fs₃, -, -, hbanks⟩ := writeReport_eq_ok h
  have hwarnings := congrArg (fun r => r.2.1) hbanks
  dsimp only at hwarnings
  rw [← hwarnings] at hw
  obtain ⟨file, hfile, hmem⟩ := List.mem_flatMap.1 hw
  obtain ⟨⟨bank, result⟩, -, rfl⟩ := List.mem_map.1 hfile
  cases result with
  | error failure => exact ⟨bank, failure, List.mem_singleton.1 hmem⟩
  | ok path => cases hmem

/-- The paths of the files that a report can have part from each other. -/
theorem pairwise_forks (plan : ReportPlan) {lines : List OpenLine} (h : PlainBanks lines) :
    ([plan.matchedPath] ++ [plan.openEntriesPath] ++ (banksOf lines).map plan.bankPath).Pairwise
      Path.Forks := by
  have hbank := isPlain_of_mem_banksOf h
  refine List.pairwise_cons.2 ⟨?_, List.pairwise_cons.2 ⟨?_, ?_⟩⟩
  · intro q hq
    rcases List.mem_cons.1 hq with rfl | hlater
    · exact plan.matchedPath_forks_openEntriesPath
    · obtain ⟨bank, hmem, rfl⟩ := List.mem_map.1 hlater
      exact plan.matchedPath_forks_bankPath (hbank bank hmem)
  · intro q hq
    obtain ⟨bank, hmem, rfl⟩ := List.mem_map.1 hq
    exact plan.openEntriesPath_forks_bankPath (hbank bank hmem)
  · exact List.pairwise_map.2 (pairwise_bankPath plan h)

/-- A report that was written without a warning has each of its rows in one of its files. -/
theorem writeReport_filed {schedule : Schedule} {plan : ReportPlan} {matched : List MatchedRow}
    {entries : List OpenEntry} {lines : List OpenLine} {files : ReportFiles}
    (hplain : PlainBanks lines)
    (h : writeReport schedule plan matched entries lines fs = (.ok files, [], fs')) :
    Filed fs' files (ReportRow.all matched entries lines) := by
  obtain ⟨fs₁, fs₂, fs₃, hmatched, hentries, hbanks⟩ := writeReport_eq_ok h
  have hbank := isPlain_of_mem_banksOf hplain
  -- what each of the three parts leaves behind
  have hmatchedHeader : ∀ row ∈ matched.map ReportRow.matched, row.header = MatchedRow.header := by
    intro row hrow
    obtain ⟨r, -, rfl⟩ := List.mem_map.1 hrow
    rfl
  have hentriesHeader : ∀ row ∈ entries.map ReportRow.openEntry, row.header = OpenEntry.header := by
    intro row hrow
    obtain ⟨r, -, rfl⟩ := List.mem_map.1 hrow
    rfl
  rw [← ReportRow.texts_comp_matched, ← List.map_map] at hmatched
  rw [← ReportRow.texts_comp_openEntry, ← List.map_map] at hentries
  obtain ⟨hmatchedPath, hmatchedFile⟩ := isWritten_of_writeRows hmatched hmatchedHeader
  obtain ⟨hentriesPath, hentriesFile⟩ := isWritten_of_writeRows hentries hentriesHeader
  have hquiet : (writeBanks schedule plan lines fs₃).2.1 = [] := by rw [hbanks]
  obtain ⟨hbankPaths, hbankFiles⟩ := writeBanks_filed schedule plan hplain hquiet
  -- what the later parts keep of it
  have hafterEntries : ∀ f : ReportFile, f.path = plan.matchedPath → f.IsWritten fs₂ →
      f.IsWritten fs₃ := by
    intro f hpath hf
    have hkept := hf.writeRows (hpath ▸ plan.matchedPath_forks_openEntriesPath.symm)
      OpenEntry.header ((entries.map ReportRow.openEntry).map ReportRow.texts)
    rw [hentries] at hkept
    exact hkept
  have hafterBanks : ∀ f : ReportFile, f.IsWritten fs₃ →
      (∀ bank, Text.IsPlain bank → (plan.bankPath bank).Forks f.path) → f.IsWritten fs' := by
    intro f hf hforks
    have hkept := hf.writeBanks schedule fun bank hmem => hforks bank (hbank bank hmem)
    rw [hbanks] at hkept
    exact hkept
  rw [hbanks] at hbankPaths hbankFiles
  have hpaths : (ReportFile.ofRows plan.matchedPath (matched.map .matched)
      ++ ReportFile.ofRows plan.openEntriesPath (entries.map .openEntry)
      ++ (banksOf lines).map (bankReport plan lines)).map ReportFile.path = files.paths := by
    rw [List.map_append, List.map_append, hmatchedPath, hentriesPath, ReportFiles.paths,
      hbankPaths, List.map_map, path_comp_bankReport]
  refine ⟨_, hpaths, ?_, ?_, ?_⟩
  · rw [← hpaths, List.map_append, List.map_append]
    refine (pairwise_forks plan hplain).sublist ?_
    refine List.Sublist.append (List.Sublist.append ?_ ?_) ?_
    · exact ReportFile.map_path_ofRows_sublist _ _
    · exact ReportFile.map_path_ofRows_sublist _ _
    · rw [List.map_map, path_comp_bankReport]
  · intro f hf
    rcases List.mem_append.1 hf with hfront | hbehind
    · rcases List.mem_append.1 hfront with hm | he
      · have hpath := ReportFile.path_of_mem_ofRows hm
        refine hafterBanks f (hafterEntries f hpath (hmatchedFile f hm)) fun bank hplainBank => ?_
        rw [hpath]
        exact (plan.matchedPath_forks_bankPath hplainBank).symm
      · refine hafterBanks f (hentriesFile f he) fun bank hplainBank => ?_
        rw [ReportFile.path_of_mem_ofRows he]
        exact (plan.openEntriesPath_forks_bankPath hplainBank).symm
    · obtain ⟨bank, hmem, rfl⟩ := List.mem_map.1 hbehind
      exact hbankFiles bank hmem
  · rw [List.flatMap_append, List.flatMap_append, ReportFile.flatMap_rows_ofRows,
      ReportFile.flatMap_rows_ofRows]
    exact (flatMap_rows_bankReport plan lines).append_left _

end

end LedgerMatch
