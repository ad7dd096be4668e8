import LedgerMatch.Proofs.Files.Rewriting
import LedgerMatch.Proofs.Report.Filing
import Mathlib.Data.List.Flatten

/-!
# Writing a report again

A report stores contents that depend on its plan and rows alone, all of them below the directories
of the plan. Whatever part of a report was stored before, in full or up to a file that could not be
written or removed, writing the report leaves the same files as it would have left without that
part. What lies below a root apart from the directories does not change.
-/

namespace LedgerMatch

/-! ### What a report stores -/

/-- The file of rows under a header, if there are any. -/
def rowsContent (path : Path) (header : List String) (rows : List (List String)) :
    List (Path × Bytes) :=
  if rows = [] then [] else [(path, Text.encode (Csv.document header rows))]

theorem rowsContent_of_mem {path : Path} {header : List String} {rows : List (List String)}
    {f : Path × Bytes} (h : f ∈ rowsContent path header rows) :
    rowsContent path header rows = [f] := by
  rw [rowsContent] at h ⊢
  split at h
  · cases h
  · next hne => rw [if_neg hne, List.mem_singleton.1 h]

theorem mem_rowsContent {path : Path} {header : List String} {rows : List (List String)}
    (h : rows ≠ []) :
    (path, Text.encode (Csv.document header rows)) ∈ rowsContent path header rows := by
  rw [rowsContent, if_neg h]
  exact List.mem_singleton_self _

theorem map_fst_rowsContent_sublist (path : Path) (header : List String)
    (rows : List (List String)) : ((rowsContent path header rows).map Prod.fst).Sublist [path] := by
  rw [rowsContent]
  split
  · exact List.nil_sublist _
  · exact List.Sublist.refl _

namespace ReportPlan

/-- The file of a bank, if it has lines. -/
def bankContent (plan : ReportPlan) (lines : List OpenLine) (bank : String) :
    List (Path × Bytes) :=
  rowsContent (plan.bankPath bank) OpenLine.header ((linesOf lines bank).map OpenLine.texts)

/-- All files of a report. -/
def contents (plan : ReportPlan) (matched : List MatchedRow) (entries : List OpenEntry)
    (lines : List OpenLine) : List (Path × Bytes) :=
  rowsContent plan.matchedPath MatchedRow.header (matched.map MatchedRow.texts)
    ++ rowsContent plan.openEntriesPath OpenEntry.header (entries.map OpenEntry.texts)
    ++ (banksOf lines).flatMap (plan.bankContent lines)

variable {plan : ReportPlan} {matched : List MatchedRow} {entries : List OpenEntry}
  {lines : List OpenLine}

theorem map_fst_contents_sublist : ((plan.contents matched entries lines).map Prod.fst).Sublist
    ([plan.matchedPath] ++ [plan.openEntriesPath] ++ (banksOf lines).map plan.bankPath) := by
  rw [contents, List.map_append, List.map_append]
  refine .append (.append (map_fst_rowsContent_sublist ..) (map_fst_rowsContent_sublist ..)) ?_
  rw [List.map_flatMap, List.map_eq_flatMap]
  exact List.Sublist.flatMap_right _ fun bank _ => map_fst_rowsContent_sublist ..

/-- The files of a report have different paths. -/
theorem pairwise_contents (h : PlainBanks lines) :
    (plan.contents matched entries lines).Pairwise fun f g => f.1.same g.1 = false :=
  List.pairwise_map.1 (((pairwise_forks plan h).sublist map_fst_contents_sublist).imp
    Path.Forks.not_same)

theorem isBelow_matchedDirectory : plan.matchedPath.isBelow plan.matchedDirectory = true :=
  Path.isBelow_join _ (plan.isPlain_fileName (by unfold Text.IsPlain; decide))
    (plan.long_fileName _)

theorem isBelow_openEntriesDirectory :
    plan.openEntriesPath.isBelow plan.openEntriesDirectory = true :=
  Path.isBelow_join _ (plan.isPlain_fileName (by unfold Text.IsPlain; decide))
    (plan.long_fileName _)

theorem isBelow_openLinesDirectory {bank : String} (h : Text.IsPlain bank) :
    (plan.bankPath bank).isBelow plan.openLinesDirectory = true :=
  Path.isBelow_join _ (plan.isPlain_fileName (Text.isPlain_lower h)) (plan.long_fileName _)

/-- The files of a report lie in its directories. -/
theorem exists_directory (h : PlainBanks lines) {f : Path × Bytes}
    (hf : f ∈ plan.contents matched entries lines) :
    ∃ dir ∈ plan.directories, f.1.isBelow dir = true := by
  have hpath := map_fst_contents_sublist.subset (List.mem_map_of_mem hf)
  rw [List.mem_append, List.mem_append, List.mem_singleton, List.mem_singleton] at hpath
  rcases hpath with (hmatched | hentries) | hbank
  · rw [hmatched]
    exact ⟨plan.matchedDirectory, by simp [directories], isBelow_matchedDirectory⟩
  · rw [hentries]
    exact ⟨plan.openEntriesDirectory, by simp [directories], isBelow_openEntriesDirectory⟩
  · obtain ⟨bank, hmem, heq⟩ := List.mem_map.1 hbank
    rw [← heq]
    exact ⟨plan.openLinesDirectory, by simp [directories],
      isBelow_openLinesDirectory (isPlain_of_mem_banksOf h bank hmem)⟩

end ReportPlan

/-! ### What a report keeps -/

section

variable {φ : Type} [FileSystem φ] {I : φ → Prop} {fs : φ}

/-- What is kept when the file of rows is written is kept when the rows are. -/
theorem writeRows_keeps {path : Path} {header : List String} {rows : List (List String)}
    (h : ∀ f ∈ rowsContent path header rows, ∀ fs, I fs → I (FileSystem.write fs f.1 f.2).2)
    (hfs : I fs) : I (writeRows path header rows fs).2 := by
  rw [writeRows]
  split
  · exact hfs
  · next hne =>
      have hkept := h _ (mem_rowsContent hne) fs hfs
      split
      · next hwrite =>
          rw [hwrite] at hkept
          exact hkept
      · next hwrite =>
          rw [hwrite] at hkept
          exact hkept

theorem removeAll_keeps {dirs : List Path}
    (h : ∀ dir ∈ dirs, ∀ fs, I fs → I (FileSystem.remove fs dir).2) (hfs : I fs) :
    I (removeAll fs dirs).2 := by
  induction dirs generalizing fs with
  | nil => exact hfs
  | cons dir dirs ih =>
      have hkept := h dir List.mem_cons_self fs hfs
      rw [removeAll]
      split
      · next hremove =>
          rw [hremove] at hkept
          exact ih (fun d hd => h d (List.mem_cons_of_mem dir hd)) hkept
      · next hremove =>
          rw [hremove] at hkept
          exact hkept

variable {plan : ReportPlan} {matched : List MatchedRow} {entries : List OpenEntry}
  {lines : List OpenLine}

/-- What is kept when a directory of a report is removed or a file of it is written, whether or not
that succeeds, is kept when the report is written, whether or not that succeeds. -/
theorem writeReport_keeps (schedule : Schedule)
    (hremove : plan.clear = true → ∀ dir ∈ plan.directories, ∀ fs, I fs →
      I (FileSystem.remove fs dir).2)
    (hwrite : ∀ f ∈ plan.contents matched entries lines, ∀ fs, I fs →
      I (FileSystem.write fs f.1 f.2).2) (hfs : I fs) :
    I (writeReport schedule plan matched entries lines fs).2.2 := by
  have hcleared : I (if plan.clear then removeAll fs plan.directories else (.ok (), fs)).2 := by
    split
    · next hclear => exact removeAll_keeps (hremove hclear) hfs
    · exact hfs
  have hmatched : ∀ fs, I fs →
      I (writeRows plan.matchedPath MatchedRow.header (matched.map MatchedRow.texts) fs).2 :=
    fun fs => writeRows_keeps fun f hf =>
      hwrite f (List.mem_append_left _ (List.mem_append_left _ hf))
  have hentries : ∀ fs, I fs →
      I (writeRows plan.openEntriesPath OpenEntry.header (entries.map OpenEntry.texts) fs).2 :=
    fun fs => writeRows_keeps fun f hf =>
      hwrite f (List.mem_append_left _ (List.mem_append_right _ hf))
  have hbanks : ∀ fs, I fs → I (writeBanks schedule plan lines fs).2.2 := by
    intro fs
    refine Schedule.run_keeps ?_ schedule
    intro task htask fs
    obtain ⟨bank, hbank, rfl⟩ := List.mem_map.1 htask
    exact writeRows_keeps fun f hf =>
      hwrite f (List.mem_append_right _ (List.mem_flatMap.2 ⟨bank, hbank, hf⟩))
  rw [writeReport]
  split
  · next hclear =>
      rw [hclear] at hcleared
      exact hcleared
  · next fs₁ hclear =>
      rw [hclear] at hcleared
      have h₂ := hmatched fs₁ hcleared
      split
      · next hrows =>
          rw [hrows] at h₂
          exact h₂
      · next fs₂ hrows =>
          rw [hrows] at h₂
          have h₃ := hentries fs₂ h₂
          dsimp only
          split
          · next hrows =>
              rw [hrows] at h₃
              exact h₃
          · next fs₃ hrows =>
              rw [hrows] at h₃
              exact hbanks fs₃ h₃

end

/-! ### Files that a report leads to -/

namespace ReportPlan

open FlatFiles

variable {plan : ReportPlan} {matched : List MatchedRow} {entries : List OpenEntry}
  {lines : List OpenLine}

/-- The files after a report that nothing hinders. -/
def settle (plan : ReportPlan) (matched : List MatchedRow) (entries : List OpenEntry)
    (lines : List OpenLine) (fs : FlatFiles) : FlatFiles :=
  insertAll (plan.contents matched entries lines)
    (if plan.clear then eraseAll plan.directories fs else fs)

/-- A file of a report can be stored before the report is written. -/
theorem settle_insert (h : PlainBanks lines) {f : Path × Bytes}
    (hf : f ∈ plan.contents matched entries lines) (fs : FlatFiles) :
    plan.settle matched entries lines (fs.insert f.1 f.2)
      = plan.settle matched entries lines fs := by
  rw [settle, settle]
  split
  · obtain ⟨dir, hdir, hbelow⟩ := exists_directory h hf
    rw [eraseAll_insert hdir hbelow]
  · exact insertAll_insert (pairwise_contents h) hf fs

/-- A directory of a report that clears them can be removed before the report is written. -/
theorem settle_erase (hclear : plan.clear = true) {dir : Path} (hdir : dir ∈ plan.directories)
    (fs : FlatFiles) :
    plan.settle matched entries lines (fs.erase dir) = plan.settle matched entries lines fs := by
  rw [settle, settle, if_pos hclear, if_pos hclear, eraseAll_erase hdir]

/-- However far a report came, writing it again leads to the files that it leads to at once. -/
theorem settle_writeReport (h : PlainBanks lines) (schedule : Schedule) (fs : FaultyFiles) :
    plan.settle matched entries lines
        (writeReport schedule plan matched entries lines fs).2.2.files
      = plan.settle matched entries lines fs.files := by
  refine writeReport_keeps (I := fun fs' : FaultyFiles =>
    plan.settle matched entries lines fs'.files = plan.settle matched entries lines fs.files)
    schedule ?_ ?_ rfl
  · intro hclear dir hdir fs' hsettles
    show plan.settle matched entries lines (fs'.remove dir).2.files = _
    rw [FaultyFiles.remove]
    split
    · exact hsettles
    · exact (settle_erase hclear hdir fs'.files).trans hsettles
  · intro f hf fs' hsettles
    show plan.settle matched entries lines (fs'.write f.1 f.2).2.files = _
    rw [FaultyFiles.write]
    split
    · exact hsettles
    · exact (settle_insert h hf fs'.files).trans hsettles

/-- A report leaves the files alone that lie below a root apart from its directories. -/
theorem alikeBelow_writeReport (h : PlainBanks lines) {root : Path}
    (hroot : ∀ dir ∈ plan.directories, ∀ p : Path,
      ¬ (p.isBelow root = true ∧ p.isBelow dir = true))
    (schedule : Schedule) (fs : FaultyFiles) :
    AlikeBelow root (writeReport schedule plan matched entries lines fs).2.2.files fs.files := by
  have hapart : ∀ dir ∈ plan.directories, ∀ p : Path, p.isBelow root = true →
      p.isBelow dir = false := by
    intro dir hdir p hp
    rw [← Bool.not_eq_true]
    exact fun hbelow => hroot dir hdir p ⟨hp, hbelow⟩
  refine writeReport_keeps (I := fun fs' : FaultyFiles => AlikeBelow root fs'.files fs.files)
    schedule ?_ ?_ (.refl root fs.files)
  · intro hclear dir hdir fs' halike
    show AlikeBelow root (fs'.remove dir).2.files fs.files
    rw [FaultyFiles.remove]
    split
    · exact halike
    · exact halike.erase (hapart dir hdir)
  · intro f hf fs' halike
    show AlikeBelow root (fs'.write f.1 f.2).2.files fs.files
    rw [FaultyFiles.write]
    split
    · exact halike
    · obtain ⟨dir, hdir, hbelow⟩ := exists_directory h hf
      refine halike.insert ?_ f.2
      rw [← Bool.not_eq_true]
      exact fun hp => hroot dir hdir f.1 ⟨hp, hbelow⟩

end ReportPlan

/-! ### Reports that nothing hinders -/

section

open FlatFiles

theorem removeAll_flat (fs : FlatFiles) (dirs : List Path) :
    removeAll fs dirs = (.ok (), eraseAll dirs fs) := by
  induction dirs generalizing fs with
  | nil => rfl
  | cons dir dirs ih => exact ih (fs.erase dir)

theorem writeRows_flat (path : Path) (header : List String) (rows : List (List String))
    (fs : FlatFiles) :
    writeRows path header rows fs
      = (.ok (if rows = [] then none else some path), insertAll (rowsContent path header rows) fs) := by
  rw [writeRows, rowsContent]
  split
  · rfl
  · rfl

/-- Rows that are written twice are written once. -/
theorem insertAll_rowsContent_again (path : Path) (header : List String)
    (rows : List (List String)) (fs : FlatFiles) :
    insertAll (rowsContent path header rows) (insertAll (rowsContent path header rows) fs)
      = insertAll (rowsContent path header rows) fs := by
  rw [rowsContent]
  split
  · rfl
  · exact insert_insert fs path _ _

/-- Rows of two files can be written in either order. -/
theorem insertAll_rowsContent_comm {p q : Path} (h : p.same q = false) (header : List String)
    (rows rows' : List (List String)) (fs : FlatFiles) :
    insertAll (rowsContent q header rows') (insertAll (rowsContent p header rows) fs)
      = insertAll (rowsContent p header rows) (insertAll (rowsContent q header rows') fs) := by
  rw [rowsContent, rowsContent]
  split
  · rfl
  · split
    · rfl
    · exact insert_comm h fs _ _

/-- Writing the file of a bank, and what the others keep of it. -/
theorem leaves_bankContents (plan : ReportPlan) {lines : List OpenLine} (h : PlainBanks lines) :
    Schedule.Leaves
      (fun bank (_ : Except Failure (Option Path)) fs =>
        insertAll (plan.bankContent lines bank) fs = fs)
      (banksOf lines) fun bank =>
      writeRows (plan.bankPath bank) OpenLine.header ((linesOf lines bank).map OpenLine.texts) where
  done := by
    intro bank _ fs
    rw [writeRows_flat]
    exact insertAll_rowsContent_again ..
  kept := by
    have hkept : ∀ {bank bank' : String} {fs : FlatFiles},
        (plan.bankPath bank).same (plan.bankPath bank') = false →
        insertAll (plan.bankContent lines bank) fs = fs →
          insertAll (plan.bankContent lines bank) (insertAll (plan.bankContent lines bank') fs)
            = insertAll (plan.bankContent lines bank') fs := by
      intro bank bank' fs hne hstored
      rw [ReportPlan.bankContent, ReportPlan.bankContent, ← insertAll_rowsContent_comm hne]
      exact congrArg _ hstored
    refine (pairwise_bankPath plan h).imp fun hforks _ fs => ?_
    rw [writeRows_flat, writeRows_flat]
    exact ⟨hkept hforks.not_same, hkept hforks.symm.not_same⟩

/-- The files of all banks, after they were written side by side. -/
theorem writeBanks_files (schedule : Schedule) (plan : ReportPlan) {lines : List OpenLine}
    (h : PlainBanks lines) (fs : FlatFiles) :
    (writeBanks schedule plan lines fs).2.2
      = insertAll ((banksOf lines).flatMap (plan.bankContent lines)) fs := by
  have hall : (plan.contents [] [] lines).Pairwise fun f g => f.1.same g.1 = false :=
    ReportPlan.pairwise_contents h
  have hpairs := hall.sublist (List.sublist_append_right _ _)
  have hsettles : insertAll ((banksOf lines).flatMap (plan.bankContent lines))
      (writeBanks schedule plan lines fs).2.2
        = insertAll ((banksOf lines).flatMap (plan.bankContent lines)) fs := by
    refine Schedule.run_keeps (I := fun fs' =>
      insertAll ((banksOf lines).flatMap (plan.bankContent lines)) fs' = _) ?_ schedule rfl
    intro task htask fs' hfs'
    obtain ⟨bank, hbank, rfl⟩ := List.mem_map.1 htask
    refine writeRows_keeps (I := fun fs' =>
      insertAll ((banksOf lines).flatMap (plan.bankContent lines)) fs' = _)
      (fun f hf fs' hfs' => ?_) hfs'
    exact (insertAll_insert hpairs (List.mem_flatMap.2 ⟨bank, hbank, hf⟩) fs').trans hfs'
  have hleft := (List.forall₂_and_left _ _).1 (((leaves_bankContents plan h).run schedule fs).imp
    fun _ _ hstored => And.intro hstored trivial)
  rw [← hsettles]
  refine (insertAll_of_stored fun f hf => ?_).symm
  obtain ⟨bank, hbank, hmem⟩ := List.mem_flatMap.1 hf
  have hstored := hleft.1 bank hbank
  rw [ReportPlan.bankContent, rowsContent_of_mem hmem] at hstored
  exact hstored

/-- All banks have their files. -/
theorem writeBanks_flat (schedule : Schedule) (plan : ReportPlan) {lines : List OpenLine}
    (h : PlainBanks lines) (fs : FlatFiles) :
    writeBanks schedule plan lines fs
      = ((banksOf lines).map fun bank => (bank, plan.bankPath bank), [],
        insertAll ((banksOf lines).flatMap (plan.bankContent lines)) fs) := by
  have hwritten : ∀ bank ∈ banksOf lines, ∀ fs' : FlatFiles,
      (writeRows (plan.bankPath bank) OpenLine.header ((linesOf lines bank).map OpenLine.texts)
        fs').1 = .ok (some (plan.bankPath bank)) := by
    intro bank hbank fs'
    rw [writeRows_flat, if_neg fun hnil => linesOf_ne_nil hbank (List.map_eq_nil_iff.1 hnil)]
  have hfiles : ((banksOf lines).zip ((banksOf lines).map fun bank =>
      (.ok (some (plan.bankPath bank)) : Except Failure (Option Path)))).map
        (fun r => bankFile r.1 r.2)
      = (banksOf lines).map fun bank => (some (bank, plan.bankPath bank), []) := by
    rw [← List.map_prod_left_eq_zip, List.map_map]
    rfl
  rw [← writeBanks_files schedule plan h fs]
  unfold writeBanks
  dsimp only
  rw [Schedule.run_results _ _ hwritten, hfiles]
  simp [List.filterMap_map]

/-- The paths of a report that nothing hinders. -/
def ReportPlan.files (plan : ReportPlan) (matched : List MatchedRow) (entries : List OpenEntry)
    (lines : List OpenLine) : ReportFiles where
  matched := if matched = [] then none else some plan.matchedPath
  openEntries := if entries = [] then none else some plan.openEntriesPath
  openLines := (banksOf lines).map fun bank => (bank, plan.bankPath bank)

/-- A report that nothing hinders is written in full, and its paths and files do not depend on the
order in which the files of banks are finished. -/
theorem writeReport_flat (schedule : Schedule) (plan : ReportPlan) (matched : List MatchedRow)
    (entries : List OpenEntry) {lines : List OpenLine} (h : PlainBanks lines) (fs : FlatFiles) :
    writeReport schedule plan matched entries lines fs
      = (.ok (plan.files matched entries lines), [], plan.settle matched entries lines fs) := by
  have hclear : (if plan.clear then removeAll fs plan.directories else (.ok (), fs))
      = (.ok (), if plan.clear then eraseAll plan.directories fs else fs) := by
    split
    · exact removeAll_flat fs plan.directories
    · rfl
  rw [writeReport, hclear]
  dsimp only
  rw [writeRows_flat]
  dsimp only
  rw [writeRows_flat]
  dsimp only
  rw [writeBanks_flat schedule plan h, ReportPlan.settle, ReportPlan.contents, insertAll_append,
    insertAll_append, ReportPlan.files]
  simp only [List.map_eq_nil_iff]

end

end LedgerMatch
