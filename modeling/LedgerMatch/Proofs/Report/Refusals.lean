import LedgerMatch.Proofs.Report.Rewriting

/-!
# Reports of which files cannot be written

Where writing fails on chosen paths, a report says which of its files were written and which banks
have none, and each file that it names holds its rows. A bank whose file cannot be written changes
nothing for the other banks. If one of the first two files cannot be written, the report ends there.
-/

namespace LedgerMatch

open FlatFiles

-- The paths of a report are never evaluated.
attribute [local irreducible] ReportPlan.matchedPath ReportPlan.openEntriesPath ReportPlan.bankPath

/-! ### Files that refuse -/

namespace FaultyFiles

/-- Whether nothing can be written under a path. -/
def refuses (fs : FaultyFiles) (p : Path) : Bool := Faults.covers fs.faults.write p

/-- The failure of a report to write a file. -/
def refusal : Failure := .file (.denied "write")

/-- Stores those of some contents that can be written. -/
def store (contents : List (Path × Bytes)) (fs : FaultyFiles) : FaultyFiles :=
  { fs with files := insertAll (contents.filter fun f => !fs.refuses f.1) fs.files }

/-- The same files, where also one more path refuses. -/
def refusing (fs : FaultyFiles) (p : Path) : FaultyFiles :=
  { fs with faults := { fs.faults with write := p :: fs.faults.write } }

@[simp] theorem refuses_store (contents : List (Path × Bytes)) (fs : FaultyFiles) (p : Path) :
    (fs.store contents).refuses p = fs.refuses p := rfl

theorem store_append (contents later : List (Path × Bytes)) (fs : FaultyFiles) :
    fs.store (contents ++ later) = (fs.store contents).store later := by
  simp only [store, List.filter_append, insertAll_append]
  rfl

theorem refuses_refusing (fs : FaultyFiles) (p q : Path) :
    (fs.refusing p).refuses q = (q.isBelow p || fs.refuses q) := rfl

theorem refuses_refusing_self (fs : FaultyFiles) (p : Path) : (fs.refusing p).refuses p = true := by
  rw [refuses_refusing, p.isBelow_refl, Bool.true_or]

/-- A path that refuses is of no consequence to those that part from it. -/
theorem refuses_refusing_of_forks (fs : FaultyFiles) {p q : Path} (h : p.Forks q) :
    (fs.refusing p).refuses q = fs.refuses q := by
  rw [refuses_refusing, h.not_isBelow, Bool.false_or]

end FaultyFiles

open FaultyFiles

/-! ### Steps of a report -/

theorem writeRows_faulty (path : Path) (header : List String) (rows : List (List String))
    (fs : FaultyFiles) :
    writeRows path header rows fs
      = (if rows = [] then .ok none else if fs.refuses path then .error refusal else .ok (some path),
        fs.store (rowsContent path header rows)) := by
  by_cases hrows : rows = []
  · rw [hrows, writeRows_nil, if_pos rfl]
    rfl
  · rw [writeRows_of_ne_nil hrows, FaultyFiles.write, store, rowsContent, if_neg hrows, if_neg hrows]
    by_cases hrefused : fs.refuses path = true
    · have hcovered : Faults.covers fs.faults.write path = true := hrefused
      rw [if_pos hcovered, if_pos hrefused, List.filter_cons_of_neg (by simp [hrefused])]
      rfl
    · have hcovered : ¬ Faults.covers fs.faults.write path = true := hrefused
      rw [if_neg hcovered, if_neg hrefused, List.filter_cons_of_pos (by simp [hrefused])]
      rfl

theorem writeRows_refused {path : Path} {header : List String} {rows : List (List String)}
    {fs : FaultyFiles} (h : rows ≠ [] ∧ fs.refuses path = true) :
    writeRows path header rows fs = (.error refusal, fs) := by
  have hnone : fs.store (rowsContent path header rows) = fs := by
    rw [store, rowsContent, if_neg h.1, List.filter_cons_of_neg (by simp [h.2])]
    rfl
  rw [writeRows_faulty, if_neg h.1, if_pos h.2, hnone]

theorem writeRows_stored {path : Path} {header : List String} {rows : List (List String)}
    {fs : FaultyFiles} (h : ¬ (rows ≠ [] ∧ fs.refuses path = true)) :
    writeRows path header rows fs
      = (.ok (if rows = [] then none else some path), fs.store (rowsContent path header rows)) := by
  rw [writeRows_faulty]
  split
  · rfl
  · next hrows => rw [if_neg fun hrefused => h ⟨hrows, hrefused⟩]

theorem foldl_writeRows (plan : ReportPlan) (lines : List OpenLine) (banks : List String)
    (fs : FaultyFiles) :
    (banks.map fun bank => writeRows (plan.bankPath bank) OpenLine.header
        ((linesOf lines bank).map OpenLine.texts)).foldl (fun fs task => (task fs).2) fs
      = fs.store (banks.flatMap (plan.bankContent lines)) := by
  induction banks generalizing fs with
  | nil => rfl
  | cons bank banks ih =>
      rw [List.map_cons, List.foldl_cons, ih, writeRows_faulty, List.flatMap_cons, store_append]
      rfl

/-- The files of the banks that were written. -/
def ReportPlan.bankFiles (plan : ReportPlan) (lines : List OpenLine) (fs : FaultyFiles) :
    List (String × Path) :=
  ((banksOf lines).filter fun bank => !fs.refuses (plan.bankPath bank)).map fun bank =>
    (bank, plan.bankPath bank)

/-- The warnings of the banks that have no file. -/
def ReportPlan.bankWarnings (plan : ReportPlan) (lines : List OpenLine) (fs : FaultyFiles) :
    List Warning :=
  ((banksOf lines).filter fun bank => fs.refuses (plan.bankPath bank)).map fun bank =>
    .bankReportNotWritten bank refusal

/-- What comes of writing the file of a bank. -/
def ReportPlan.bankResult (plan : ReportPlan) (refuses : Path → Bool) (bank : String) :
    Except Failure (Option Path) :=
  if refuses (plan.bankPath bank) then .error refusal else .ok (some (plan.bankPath bank))

theorem writeBanks_faulty (schedule : Schedule) (plan : ReportPlan) {lines : List OpenLine}
    (h : PlainBanks lines) (fs : FaultyFiles) :
    writeBanks schedule plan lines fs
      = (plan.bankFiles lines fs, plan.bankWarnings lines fs,
        fs.store ((banksOf lines).flatMap (plan.bankContent lines))) := by
  have hresults : (schedule.run ((banksOf lines).map fun bank => writeRows (plan.bankPath bank)
      OpenLine.header ((linesOf lines bank).map OpenLine.texts)) fs).1
        = (banksOf lines).map (plan.bankResult fs.refuses) := by
    refine Schedule.run_results_of_kept (fun fs : FaultyFiles => fs.refuses) plan.bankResult ?_ ?_
      schedule fs
    · intro bank _ fs
      rw [writeRows_faulty]
      rfl
    · intro bank hbank fs
      rw [writeRows_faulty, if_neg fun hnil => linesOf_ne_nil hbank (List.map_eq_nil_iff.1 hnil)]
      rfl
  have hstate := (independent_writeRows plan h).run_state schedule fs
  rw [foldl_writeRows] at hstate
  unfold writeBanks
  dsimp only
  rw [hresults, hstate, ReportPlan.bankFiles, ReportPlan.bankWarnings]
  refine Prod.ext ?_ (Prod.ext ?_ rfl)
  all_goals
    dsimp only
    generalize banksOf lines = banks
    induction banks with
    | nil => rfl
    | cons bank banks ih =>
        cases hrefused : fs.refuses (plan.bankPath bank) <;>
          simp_all [ReportPlan.bankResult, bankFile]

/-- Earlier reports are removed, if the plan says so. -/
def ReportPlan.cleared (plan : ReportPlan) (fs : FaultyFiles) : Except Failure Unit × FaultyFiles :=
  if plan.clear then removeAll fs plan.directories else (.ok (), fs)

theorem removeAll_faulty (fs : FaultyFiles) (dir : Path) (dirs : List Path) :
    removeAll fs (dir :: dirs)
      = if Faults.covers fs.faults.remove dir then (.error (.file (.denied "remove")), fs)
        else removeAll { fs with files := fs.files.erase dir } dirs := by
  have hremove : FileSystem.remove fs dir = fs.remove dir := rfl
  rw [removeAll, hremove, FaultyFiles.remove]
  by_cases hcovered : Faults.covers fs.faults.remove dir = true
  · rw [if_pos hcovered, if_pos hcovered]
  · rw [if_neg hcovered, if_neg hcovered]

/-- Directories that were all removed are gone, and nothing else has changed. -/
theorem removeAll_eq_ok {dirs : List Path} {fs fs' : FaultyFiles}
    (h : removeAll fs dirs = (.ok (), fs')) : fs' = { fs with files := eraseAll dirs fs.files } := by
  induction dirs generalizing fs with
  | nil => exact (Prod.mk.inj h).2.symm
  | cons dir dirs ih =>
      rw [removeAll_faulty] at h
      split at h
      · cases h
      · exact ih h

theorem removeAll_refusing (fs : FaultyFiles) (p : Path) (dirs : List Path) :
    removeAll (fs.refusing p) dirs
      = ((removeAll fs dirs).1, (removeAll fs dirs).2.refusing p) := by
  induction dirs generalizing fs with
  | nil => rfl
  | cons dir dirs ih =>
      have hfaults : (fs.refusing p).faults.remove = fs.faults.remove := rfl
      rw [removeAll_faulty, removeAll_faulty, hfaults]
      by_cases hcovered : Faults.covers fs.faults.remove dir = true
      · rw [if_pos hcovered, if_pos hcovered]
      · rw [if_neg hcovered, if_neg hcovered]
        exact ih { fs with files := fs.files.erase dir }

namespace ReportPlan

variable {plan : ReportPlan} {matched : List MatchedRow} {entries : List OpenEntry}
  {lines : List OpenLine} {fs fs₁ : FaultyFiles}

theorem cleared_eq_ok (h : plan.cleared fs = (.ok (), fs₁)) :
    fs₁ = { fs with
      files := if plan.clear then eraseAll plan.directories fs.files else fs.files } := by
  rw [cleared] at h
  split at h
  · next hclear =>
      rw [if_pos hclear]
      exact removeAll_eq_ok h
  · next hclear =>
      rw [if_neg hclear]
      exact (Prod.mk.inj h).2.symm

theorem refuses_of_cleared (h : plan.cleared fs = (.ok (), fs₁)) (p : Path) :
    fs₁.refuses p = fs.refuses p := by
  rw [cleared_eq_ok h]
  rfl

theorem cleared_refusing (h : plan.cleared fs = (.ok (), fs₁)) (p : Path) :
    plan.cleared (fs.refusing p) = (.ok (), fs₁.refusing p) := by
  rw [cleared] at h ⊢
  split at h
  · next hclear => rw [if_pos hclear, removeAll_refusing, h]
  · next hclear =>
      rw [if_neg hclear]
      cases h
      rfl

/-- The files that a report names. -/
def listed (plan : ReportPlan) (matched : List MatchedRow) (entries : List OpenEntry)
    (lines : List OpenLine) (fs : FaultyFiles) : ReportFiles where
  matched := if matched = [] then none else some plan.matchedPath
  openEntries := if entries = [] then none else some plan.openEntriesPath
  openLines := plan.bankFiles lines fs

/-- What comes of a report after earlier ones were removed. -/
theorem writeReport_of_cleared (h : PlainBanks lines) (hclear : plan.cleared fs = (.ok (), fs₁))
    (schedule : Schedule) :
    writeReport schedule plan matched entries lines fs
      = if matched ≠ [] ∧ fs.refuses plan.matchedPath then (.error refusal, [], fs₁)
        else if entries ≠ [] ∧ fs.refuses plan.openEntriesPath then
          (.error refusal, [], fs₁.store (rowsContent plan.matchedPath MatchedRow.header
            (matched.map MatchedRow.texts)))
        else (.ok (plan.listed matched entries lines fs), plan.bankWarnings lines fs,
          fs₁.store (plan.contents matched entries lines)) := by
  have hrefuses : fs₁.refuses = fs.refuses := funext (refuses_of_cleared hclear)
  have hcleared : (if plan.clear then removeAll fs plan.directories else (.ok (), fs))
      = (.ok (), fs₁) := hclear
  have hrows : ∀ {α : Type} {texts : α → List String} {rows : List α} {p : Path} {gs : FaultyFiles},
      gs.refuses = fs.refuses →
        ((rows.map texts ≠ [] ∧ gs.refuses p = true) ↔ (rows ≠ [] ∧ fs.refuses p = true)) := by
    intro α texts rows p gs hgs
    rw [hgs, ne_eq, List.map_eq_nil_iff]
  rw [writeReport, hcleared]
  dsimp only
  by_cases hm : matched ≠ [] ∧ fs.refuses plan.matchedPath = true
  · rw [if_pos hm, writeRows_refused ((hrows hrefuses).2 hm)]
  · rw [if_neg hm, writeRows_stored fun hm' => hm ((hrows hrefuses).1 hm')]
    dsimp only
    have hlater : (fs₁.store (rowsContent plan.matchedPath MatchedRow.header
        (matched.map MatchedRow.texts))).refuses = fs.refuses := hrefuses
    by_cases he : entries ≠ [] ∧ fs.refuses plan.openEntriesPath = true
    · rw [if_pos he, writeRows_refused ((hrows hlater).2 he)]
    · rw [if_neg he, writeRows_stored fun he' => he ((hrows hlater).1 he')]
      dsimp only
      rw [writeBanks_faulty schedule plan h, contents, store_append, store_append, listed]
      simp only [List.map_eq_nil_iff, bankFiles, bankWarnings, refuses_store, hrefuses]

/-- A report that was written removed the earlier ones before, if the plan says so. -/
theorem cleared_of_writeReport {schedule : Schedule} {files : ReportFiles} {warnings : List Warning}
    {fs' : FaultyFiles} (h : PlainBanks lines)
    (hwrite : writeReport schedule plan matched entries lines fs = (.ok files, warnings, fs')) :
    ∃ fs₁, plan.cleared fs = (.ok (), fs₁) ∧ ¬ (matched ≠ [] ∧ fs.refuses plan.matchedPath) ∧
      ¬ (entries ≠ [] ∧ fs.refuses plan.openEntriesPath) ∧
      files = plan.listed matched entries lines fs ∧ warnings = plan.bankWarnings lines fs ∧
      fs' = fs₁.store (plan.contents matched entries lines) := by
  cases hclear : plan.cleared fs with
  | mk result fs₁ =>
      cases result with
      | error failure =>
          have hcleared : (if plan.clear then removeAll fs plan.directories else (.ok (), fs))
              = (.error failure, fs₁) := hclear
          rw [writeReport, hcleared] at hwrite
          cases hwrite
      | ok _ =>
          rw [writeReport_of_cleared h hclear] at hwrite
          split at hwrite
          · cases hwrite
          · next hm =>
              split at hwrite
              · cases hwrite
              · next he =>
                  cases hwrite
                  exact ⟨fs₁, rfl, hm, he, rfl, rfl, rfl⟩

/-! ### What a report tells -/

/-- A report that was written names the files that there was something to write to and that could be
written, and each of them holds its rows in their order. -/
structure Tells (plan : ReportPlan) (matched : List MatchedRow) (entries : List OpenEntry)
    (lines : List OpenLine) (fs : FaultyFiles) (files : ReportFiles) (warnings : List Warning)
    (fs' : FaultyFiles) : Prop where
  matched_listed : files.matched = if matched = [] then none else some plan.matchedPath
  openEntries_listed : files.openEntries = if entries = [] then none else some plan.openEntriesPath
  bank_listed : ∀ bank path, (bank, path) ∈ files.openLines ↔
    path = plan.bankPath bank ∧ (∃ l ∈ lines, Text.upper l.bank = bank) ∧ fs.refuses path = false
  bank_warned : ∀ w, w ∈ warnings ↔ ∃ bank, (∃ l ∈ lines, Text.upper l.bank = bank) ∧
    fs.refuses (plan.bankPath bank) = true ∧ w = .bankReportNotWritten bank refusal
  matched_held : ∀ path, files.matched = some path → fs'.files.find? path
    = some (Text.encode (Csv.document MatchedRow.header (matched.map MatchedRow.texts)))
  openEntries_held : ∀ path, files.openEntries = some path → fs'.files.find? path
    = some (Text.encode (Csv.document OpenEntry.header (entries.map OpenEntry.texts)))
  bank_held : ∀ bank path, (bank, path) ∈ files.openLines → fs'.files.find? path
    = some (Text.encode (Csv.document OpenLine.header ((linesOf lines bank).map OpenLine.texts)))
  apart : files.paths.Pairwise Path.Forks

/-- The outcome of a report is the same without the file of a bank, but for that bank. -/
structure SameButFor (plan : ReportPlan) (bank : String) (files files' : ReportFiles)
    (warnings warnings' : List Warning) (fs' fs'' : FaultyFiles) : Prop where
  matched : files'.matched = files.matched
  openEntries : files'.openEntries = files.openEntries
  openLines : files'.openLines = files.openLines.filter fun file => file.1 != bank
  warnings : ∀ w, w ∈ warnings' ↔ w ∈ warnings ∨ w = .bankReportNotWritten bank refusal
  contents : ∀ p, (plan.bankPath bank).same p = false → fs''.files.find? p = fs'.files.find? p

theorem mem_bankFiles {bank : String} {path : Path} : (bank, path) ∈ plan.bankFiles lines fs ↔
    path = plan.bankPath bank ∧ (∃ l ∈ lines, Text.upper l.bank = bank) ∧ fs.refuses path = false := by
  rw [bankFiles, List.mem_map]
  constructor
  · rintro ⟨bank', hbank, heq⟩
    cases heq
    obtain ⟨hmem, hrefuses⟩ := List.mem_filter.1 hbank
    exact ⟨rfl, mem_banksOf.1 hmem, by simpa using hrefuses⟩
  · rintro ⟨rfl, hmem, hrefuses⟩
    exact ⟨bank, List.mem_filter.2 ⟨mem_banksOf.2 hmem, by simp [hrefuses]⟩, rfl⟩

theorem mem_bankWarnings {w : Warning} : w ∈ plan.bankWarnings lines fs ↔
    ∃ bank, (∃ l ∈ lines, Text.upper l.bank = bank) ∧ fs.refuses (plan.bankPath bank) = true ∧
      w = .bankReportNotWritten bank refusal := by
  rw [bankWarnings, List.mem_map]
  constructor
  · rintro ⟨bank, hbank, rfl⟩
    obtain ⟨hmem, hrefuses⟩ := List.mem_filter.1 hbank
    exact ⟨bank, mem_banksOf.1 hmem, hrefuses, rfl⟩
  · rintro ⟨bank, hmem, hrefuses, rfl⟩
    exact ⟨bank, List.mem_filter.2 ⟨mem_banksOf.2 hmem, hrefuses⟩, rfl⟩

theorem map_snd_bankFiles_sublist :
    ((plan.bankFiles lines fs).map Prod.snd).Sublist ((banksOf lines).map plan.bankPath) := by
  have hpaths : (plan.bankFiles lines fs).map Prod.snd
      = ((banksOf lines).filter fun bank => !fs.refuses (plan.bankPath bank)).map plan.bankPath := by
    rw [bankFiles, List.map_map]
    rfl
  rw [hpaths]
  exact List.filter_sublist.map plan.bankPath

/-- The files that a report names part from each other. -/
theorem pairwise_listed (h : PlainBanks lines) :
    (plan.listed matched entries lines fs).paths.Pairwise Path.Forks := by
  have hopt : ∀ (c : Prop) [Decidable c] (p : Path),
      (if c then none else some p).toList.Sublist [p] := by
    intro c _ p
    split
    · exact List.nil_sublist _
    · exact List.Sublist.refl _
  refine (pairwise_forks plan h).sublist ?_
  exact .append (.append (hopt _ _) (hopt _ _)) map_snd_bankFiles_sublist

/-- A file of a report that can be written holds its content in the end. -/
theorem find?_store (h : PlainBanks lines) {path : Path} {content : Bytes}
    (hf : (path, content) ∈ plan.contents matched entries lines)
    (hrefuses : fs.refuses path = false) :
    (fs.store (plan.contents matched entries lines)).files.find? path = some content := by
  have hstored : (path, content) ∈
      (plan.contents matched entries lines).filter fun f => !fs.refuses f.1 :=
    List.mem_filter.2 ⟨hf, by simp [hrefuses]⟩
  have hfound := find?_insertAll_of_mem ((pairwise_contents h).sublist List.filter_sublist) hstored
    fs.files
  exact hfound

theorem mem_contents_of_bank {bank : String} (hbank : bank ∈ banksOf lines) :
    (plan.bankPath bank, Text.encode (Csv.document OpenLine.header
        ((linesOf lines bank).map OpenLine.texts))) ∈ plan.contents matched entries lines := by
  refine List.mem_append_right _ (List.mem_flatMap.2 ⟨bank, hbank, ?_⟩)
  exact mem_rowsContent fun hnil => linesOf_ne_nil hbank (List.map_eq_nil_iff.1 hnil)

/-- A file of rows that is named holds them in the end. -/
theorem find?_store_of_listed (h : PlainBanks lines) {α : Type} {rows : List α}
    {texts : α → List String} {header : List String} {p path : Path}
    (hcontents : ∀ f ∈ rowsContent p header (rows.map texts), f ∈ plan.contents matched entries lines)
    (hopen : ¬ (rows ≠ [] ∧ fs.refuses p = true))
    (hlisted : (if rows = [] then none else some p) = some path) :
    (fs.store (plan.contents matched entries lines)).files.find? path
      = some (Text.encode (Csv.document header (rows.map texts))) := by
  split at hlisted
  · cases hlisted
  · next hne =>
      cases hlisted
      refine find?_store h (hcontents _ ?_) (by simpa using fun hrefused => hopen ⟨hne, hrefused⟩)
      exact mem_rowsContent fun hnil => hne (List.map_eq_nil_iff.1 hnil)

theorem tells_of_writeReport {schedule : Schedule} {files : ReportFiles} {warnings : List Warning}
    {fs' : FaultyFiles} (h : PlainBanks lines)
    (hwrite : writeReport schedule plan matched entries lines fs = (.ok files, warnings, fs')) :
    plan.Tells matched entries lines fs files warnings fs' := by
  obtain ⟨fs₁, hclear, hm, he, rfl, rfl, rfl⟩ := cleared_of_writeReport h hwrite
  have hrefuses : fs₁.refuses = fs.refuses := funext (refuses_of_cleared hclear)
  refine ⟨rfl, rfl, fun _ _ => mem_bankFiles, fun _ => mem_bankWarnings, ?_, ?_, ?_,
    pairwise_listed h⟩
  · intro path hpath
    refine find?_store_of_listed h (fun f hf => ?_) (by rwa [hrefuses]) hpath
    exact List.mem_append_left _ (List.mem_append_left _ hf)
  · intro path hpath
    refine find?_store_of_listed h (fun f hf => ?_) (by rwa [hrefuses]) hpath
    exact List.mem_append_left _ (List.mem_append_right _ hf)
  · intro bank path hmem
    obtain ⟨rfl, hbank, hopen⟩ := mem_bankFiles.1 hmem
    exact find?_store h (mem_contents_of_bank (mem_banksOf.2 hbank)) (by rwa [hrefuses])

/-! ### A bank whose file cannot be written -/

theorem refuses_refusing_bankPath (h : PlainBanks lines) {bank other : String}
    (hbank : bank ∈ banksOf lines) (hother : other ∈ banksOf lines) :
    (fs.refusing (plan.bankPath bank)).refuses (plan.bankPath other)
      = (other == bank || fs.refuses (plan.bankPath other)) := by
  by_cases heq : other = bank
  · rw [heq, refuses_refusing_self, beq_self_eq_true, Bool.true_or]
  · rw [refuses_refusing_of_forks fs (bankPath_forks_of_mem plan h hbank hother (Ne.symm heq)),
      beq_eq_false_iff_ne.2 heq, Bool.false_or]

theorem bankFiles_refusing (h : PlainBanks lines) {bank : String} (hbank : bank ∈ banksOf lines) :
    plan.bankFiles lines (fs.refusing (plan.bankPath bank))
      = (plan.bankFiles lines fs).filter fun file => file.1 != bank := by
  rw [bankFiles, bankFiles, List.filter_map, List.filter_filter]
  refine congrArg (List.map _) (List.filter_congr fun other hother => ?_)
  rw [refuses_refusing_bankPath h hbank hother, Bool.not_or]
  rfl

theorem mem_bankWarnings_refusing (h : PlainBanks lines) {bank : String}
    (hbank : bank ∈ banksOf lines) {w : Warning} :
    w ∈ plan.bankWarnings lines (fs.refusing (plan.bankPath bank)) ↔
      w ∈ plan.bankWarnings lines fs ∨ w = .bankReportNotWritten bank refusal := by
  simp only [bankWarnings, List.mem_map, List.mem_filter]
  constructor
  · rintro ⟨other, ⟨hother, hrefuses⟩, rfl⟩
    rw [refuses_refusing_bankPath h hbank hother, Bool.or_eq_true, beq_iff_eq] at hrefuses
    rcases hrefuses with rfl | hbefore
    · exact Or.inr rfl
    · exact Or.inl ⟨other, ⟨hother, hbefore⟩, rfl⟩
  · rintro (⟨other, ⟨hother, hrefuses⟩, rfl⟩ | rfl)
    · exact ⟨other, ⟨hother, by rw [refuses_refusing, hrefuses, Bool.or_true]⟩, rfl⟩
    · exact ⟨bank, ⟨hbank, refuses_refusing_self fs _⟩, rfl⟩

/-- Under another path the same contents are stored. -/
theorem find?_store_refusing (h : PlainBanks lines) {bank : String} (hbank : bank ∈ banksOf lines)
    {p : Path} (hp : (plan.bankPath bank).same p = false) :
    ((fs.refusing (plan.bankPath bank)).store (plan.contents matched entries lines)).files.find? p
      = (fs.store (plan.contents matched entries lines)).files.find? p := by
  have hplain := isPlain_of_mem_banksOf h bank hbank
  have hother : ∀ f ∈ plan.contents matched entries lines, f.1.same p = true →
      (plan.bankPath bank).Forks f.1 := by
    intro f hf hsame
    have hpath := map_fst_contents_sublist.subset (List.mem_map_of_mem hf)
    rw [List.mem_append, List.mem_append, List.mem_singleton, List.mem_singleton] at hpath
    rcases hpath with (hmatched | hentries) | hmem
    · rw [hmatched]
      exact (plan.matchedPath_forks_bankPath hplain).symm
    · rw [hentries]
      exact (plan.openEntriesPath_forks_bankPath hplain).symm
    · obtain ⟨other, hmem, heq⟩ := List.mem_map.1 hmem
      rw [← heq] at hsame ⊢
      refine bankPath_forks_of_mem plan h hbank hmem ?_
      rintro rfl
      rw [hsame] at hp
      cases hp
  rw [store, store, find?_insertAll_filter, find?_insertAll_filter (List.filter _ _) p fs.files,
    List.filter_filter, List.filter_filter]
  refine congrArg (fun contents => (insertAll contents fs.files).find? p) ?_
  refine List.filter_congr fun f hf => ?_
  cases hsame : f.1.same p with
  | true => rw [refuses_refusing_of_forks fs (hother f hf hsame)]
  | false => rw [Bool.false_and, Bool.false_and]

theorem sameButFor_of_writeReport (h : PlainBanks lines) {schedule : Schedule} {files : ReportFiles}
    {warnings : List Warning} {fs' : FaultyFiles}
    (hwrite : writeReport schedule plan matched entries lines fs = (.ok files, warnings, fs'))
    {bank : String} (hbank : bank ∈ banksOf lines) :
    ∃ files' warnings' fs'',
      writeReport schedule plan matched entries lines (fs.refusing (plan.bankPath bank))
          = (.ok files', warnings', fs'') ∧
        plan.SameButFor bank files files' warnings warnings' fs' fs'' := by
  obtain ⟨fs₁, hclear, hm, he, rfl, rfl, rfl⟩ := cleared_of_writeReport h hwrite
  have hplain := isPlain_of_mem_banksOf h bank hbank
  have hmatched := refuses_refusing_of_forks fs (plan.matchedPath_forks_bankPath hplain).symm
  have hentries := refuses_refusing_of_forks fs (plan.openEntriesPath_forks_bankPath hplain).symm
  refine ⟨plan.listed matched entries lines (fs.refusing (plan.bankPath bank)),
    plan.bankWarnings lines (fs.refusing (plan.bankPath bank)),
    (fs₁.refusing (plan.bankPath bank)).store (plan.contents matched entries lines), ?_, ?_⟩
  · rw [writeReport_of_cleared h (cleared_refusing hclear _), hmatched, hentries, if_neg hm,
      if_neg he]
  · exact ⟨rfl, rfl, bankFiles_refusing h hbank, fun _ => mem_bankWarnings_refusing h hbank,
      fun p hp => find?_store_refusing h hbank hp⟩

/-! ### Reports that end early -/

/-- A report whose first two files cannot both be written has no files of banks. -/
theorem ends_of_refused (h : PlainBanks lines) (schedule : Schedule)
    (hclear : plan.cleared fs = (.ok (), fs₁))
    (hrefused : matched ≠ [] ∧ fs.refuses plan.matchedPath = true ∨
      entries ≠ [] ∧ fs.refuses plan.openEntriesPath = true) :
    ∃ fs', writeReport schedule plan matched entries lines fs = (.error refusal, [], fs') ∧
      ∀ bank, Text.IsPlain bank →
        fs'.files.find? (plan.bankPath bank) = fs₁.files.find? (plan.bankPath bank) := by
  rw [writeReport_of_cleared h hclear]
  by_cases hm : matched ≠ [] ∧ fs.refuses plan.matchedPath = true
  · rw [if_pos hm]
    exact ⟨fs₁, rfl, fun _ _ => rfl⟩
  · rw [if_neg hm, if_pos (hrefused.resolve_left hm)]
    refine ⟨_, rfl, fun bank hplain => ?_⟩
    have hnone : ∀ f ∈ (rowsContent plan.matchedPath MatchedRow.header
        (matched.map MatchedRow.texts)).filter (fun f => !fs₁.refuses f.1),
        ¬ f.1.same (plan.bankPath bank) = true := by
      intro f hf
      have hpath := (map_fst_rowsContent_sublist _ _ _).subset
        (List.mem_map_of_mem (List.mem_filter.1 hf).1)
      rw [List.mem_singleton.1 hpath, (plan.matchedPath_forks_bankPath hplain).not_same]
      exact Bool.false_ne_true
    rw [store, find?_insertAll_filter, List.filter_eq_nil_iff.2 hnone]
    rfl

/-- What a report says is true, also where files cannot be written: if it was written, it tells of
its files, and would do so without the file of any one bank; and if one of the first two files cannot
be written, this is its failure and no bank has a file. -/
structure Truthful (schedule : Schedule) (plan : ReportPlan) (matched : List MatchedRow)
    (entries : List OpenEntry) (lines : List OpenLine) (fs : FaultyFiles) : Prop where
  told : ∀ files warnings fs',
    writeReport schedule plan matched entries lines fs = (.ok files, warnings, fs') →
      plan.Tells matched entries lines fs files warnings fs'
  others : ∀ files warnings fs',
    writeReport schedule plan matched entries lines fs = (.ok files, warnings, fs') →
      ∀ bank, (∃ l ∈ lines, Text.upper l.bank = bank) → ∃ files' warnings' fs'',
        writeReport schedule plan matched entries lines (fs.refusing (plan.bankPath bank))
            = (.ok files', warnings', fs'') ∧
          plan.SameButFor bank files files' warnings warnings' fs' fs''
  ended : ∀ fs₁, plan.cleared fs = (.ok (), fs₁) →
    (matched ≠ [] ∧ fs.refuses plan.matchedPath = true ∨
      entries ≠ [] ∧ fs.refuses plan.openEntriesPath = true) →
    ∃ fs', writeReport schedule plan matched entries lines fs = (.error refusal, [], fs') ∧
      ∀ bank, Text.IsPlain bank →
        fs'.files.find? (plan.bankPath bank) = fs₁.files.find? (plan.bankPath bank)

end ReportPlan

/-- Reports of banks without slashes say what is true. -/
theorem writeReport_truthful (schedule : Schedule) (plan : ReportPlan) (matched : List MatchedRow)
    (entries : List OpenEntry) {lines : List OpenLine} (h : PlainBanks lines) (fs : FaultyFiles) :
    ReportPlan.Truthful schedule plan matched entries lines fs where
  told := fun _ _ _ hwrite => ReportPlan.tells_of_writeReport h hwrite
  others := fun _ _ _ hwrite _ hbank =>
    ReportPlan.sameButFor_of_writeReport h hwrite (mem_banksOf.2 hbank)
  ended := fun _ hclear => ReportPlan.ends_of_refused h schedule hclear

def mixedDay : Date := ⟨2025, 4, 1, by decide⟩

/-- Lines of two banks, one of them in two spellings. -/
def mixedLines : List OpenLine :=
  [⟨"A", mixedDay, "BCA", .debit, .zero⟩, ⟨"B", mixedDay, "bni", .credit, .zero⟩,
    ⟨"C", mixedDay, "bca", .credit, .zero⟩]

/-- An entry with its line. -/
def mixedMatched : List MatchedRow :=
  [⟨"S", "D", .midnight mixedDay, mixedDay, .debit, "CIMB", .zero, .zero⟩]

def mixedEntries : List OpenEntry := [⟨"T", .midnight mixedDay, .credit, .zero⟩]

/-- A report that removes earlier ones. -/
def mixedPlan : ReportPlan := ⟨⟨"/reports"⟩, 7, true⟩

/-- An earlier report of a bank, a statement elsewhere, and a bank whose file cannot be written. -/
def refusedBank : FaultyFiles where
  files := .ofList
    [(⟨"/reports/bank/not_matched/bri_6.csv"⟩, [0]), (⟨"/statements/bca/a.csv"⟩, [1])]
  faults := { Faults.none with write := [mixedPlan.bankPath "BCA"] }

/-- What the report names: there is a file of one of the two banks. -/
def mixedFiles : ReportFiles where
  matched := some ⟨"/reports/system/matched/matched_7.csv"⟩
  openEntries := some ⟨"/reports/system/not_matched/not_matched_7.csv"⟩
  openLines := [("BNI", ⟨"/reports/bank/not_matched/bni_7.csv"⟩)]

/-- The report of all this. -/
def mixedReport : Except Failure ReportFiles × List Warning × FaultyFiles :=
  writeReport .reversed mixedPlan mixedMatched mixedEntries mixedLines refusedBank

theorem mixedLines_plainBanks : PlainBanks mixedLines := by
  unfold PlainBanks Text.IsPlain
  decide

theorem banksOf_mixedLines : banksOf mixedLines = ["BCA", "BNI"] := by
  have hbanks : (mixedLines.map fun l => Text.upper l.bank).eraseDups = ["BCA", "BNI"] := by decide
  rw [banksOf, hbanks]
  exact List.mergeSort_of_pairwise (by decide)

theorem mixedReport_written :
    mixedReport = (.ok mixedFiles, [.bankReportNotWritten "BCA" refusal], mixedReport.2.2) := by
  have hclear : mixedPlan.cleared refusedBank = (.ok (), (mixedPlan.cleared refusedBank).2) :=
    Prod.ext (by decide +kernel) rfl
  have hwrite : mixedReport = _ :=
    ReportPlan.writeReport_of_cleared mixedLines_plainBanks hclear .reversed
  have hlisted : mixedPlan.listed mixedMatched mixedEntries mixedLines refusedBank = mixedFiles := by
    rw [ReportPlan.listed, ReportPlan.bankFiles, banksOf_mixedLines]
    decide +kernel
  have hwarned : mixedPlan.bankWarnings mixedLines refusedBank
      = [.bankReportNotWritten "BCA" refusal] := by
    rw [ReportPlan.bankWarnings, banksOf_mixedLines]
    decide +kernel
  rw [if_neg (by decide +kernel), if_neg (by decide +kernel), hlisted, hwarned] at hwrite
  rw [hwrite]

theorem mixedLines_truthful :
    PlainBanks mixedLines ∧
      ReportPlan.Truthful .reversed mixedPlan mixedMatched mixedEntries mixedLines refusedBank ∧
      mixedReport = (.ok mixedFiles, [.bankReportNotWritten "BCA" refusal], mixedReport.2.2) ∧
      mixedPlan.Tells mixedMatched mixedEntries mixedLines refusedBank mixedFiles
        [.bankReportNotWritten "BCA" refusal] mixedReport.2.2 := by
  have htruthful := writeReport_truthful .reversed mixedPlan mixedMatched mixedEntries
    mixedLines_plainBanks refusedBank
  exact ⟨mixedLines_plainBanks, htruthful, mixedReport_written,
    htruthful.told _ _ _ mixedReport_written⟩

end LedgerMatch
