import LedgerMatch.Csv.Decoder
import LedgerMatch.Proofs.Common
import Mathlib.Data.List.TakeWhile

/-!
# Files as rows under a header

A file whose header can be read is a header, a number of fields, and the rows below it. What becomes
of a row depends on these and on the row alone: the values of a file are made of its rows one by one,
and each row that gives no value has a warning of its own.
-/

namespace LedgerMatch.Csv

/-! ### Outcomes -/

namespace RowOutcome

variable {α : Type}

/-- Whether a row is passed over with a warning. -/
def isSkipped (o : RowOutcome α) : Bool := o.kept?.isNone && o.crashed?.isNone

/-- Outcomes that differ in nothing but why a row is skipped. -/
def Alike (o o' : RowOutcome α) : Prop := o.kept? = o'.kept? ∧ o.crashed? = o'.crashed?

theorem line_of_warning? (o : RowOutcome α) (file : Path) (line : Nat) :
    (o.warning? file line).bind Warning.line? = if o.isSkipped then some line else none := by
  cases o <;> rfl

theorem isSkipped_congr {o o' : RowOutcome α} (h : o.Alike o') : o.isSkipped = o'.isSkipped := by
  rw [isSkipped, isSkipped, h.1, h.2]

end RowOutcome

variable {α : Type} {layout : RowLayout α}

/-- A value is made of the trimmed texts of a row, which has the number of fields that is asked
for. -/
theorem RowLayout.exists_of_outcome {header : List String} {width : Nat} {raw : RawRecord} {value : α}
    (h : (layout.outcome header width raw).kept? = some value) :
    raw.length = width ∧ ∃ row cells, texts? raw = some row ∧
      bindRow layout.columns header row = .ok cells ∧ layout.convert cells = .keep value := by
  rw [outcome] at h
  by_cases hwidth : raw.length = width
  · rw [if_neg (fun hne => hne hwidth)] at h
    split at h
    · cases h
    · next row hrow =>
        split at h
        · cases h
        · next cells hcells =>
            split at h
            · next hconvert =>
                cases h
                exact ⟨hwidth, row, cells, hrow, hcells, hconvert⟩
            · cases h
            · cases h
  · rw [if_pos hwidth] at h
    cases h

/-- What becomes of a row whose fields are as many as asked for, and texts. -/
theorem RowLayout.outcome_of_texts {header : List String} {width : Nat} {raw : RawRecord}
    {row : List String} (hwidth : raw.length = width) (htexts : texts? raw = some row) :
    layout.outcome header width raw =
      match bindRow layout.columns header row with
      | .error fault => .undecodable fault
      | .ok cells =>
          match layout.convert cells with
          | .keep value => .kept value
          | .reject reason => .undecodable (.rejected reason)
          | .crash reason => .crashed reason := by
  unfold outcome
  split
  · next hne => exact (hne hwidth).elim
  · split
    · next hnone =>
        rw [htexts] at hnone
        cases hnone
    · next texts hsome =>
        rw [htexts] at hsome
        cases hsome
        rfl

/-! ### Rows -/

/-- The values of rows. -/
def RowLayout.values (layout : RowLayout α) (header : List String) (width : Nat)
    (rows : List RawRecord) : List α :=
  rows.filterMap fun raw => (layout.outcome header width raw).kept?

/-- The warnings about rows, the first of which stands on the given line. -/
def RowLayout.warnings (layout : RowLayout α) (file : Path) (line : Nat) (header : List String)
    (width : Nat) (rows : List RawRecord) : List Warning :=
  rows.zipIdx.filterMap fun r => (layout.outcome header width r.1).warning? file (line + r.2)

theorem RowLayout.values_append (header : List String) (width : Nat) (rows others : List RawRecord) :
    layout.values header width (rows ++ others)
      = layout.values header width rows ++ layout.values header width others :=
  List.filterMap_append

theorem RowLayout.values_cons_of_skipped {header : List String} {width : Nat} {raw : RawRecord}
    (h : (layout.outcome header width raw).kept? = none) (rows : List RawRecord) :
    layout.values header width (raw :: rows) = layout.values header width rows :=
  List.filterMap_cons_none h

/-- What a file that gives way adds is a warning about none of its rows. -/
theorem mem_of_mem_crashFile {file : Path} {reason : String} {warnings : List Warning} {w : Warning}
    {l : Nat} (hw : w ∈ (crashFile file reason warnings : Except Failure (List α) × List Warning).2)
    (hline : w.line? = some l) : w ∈ warnings := by
  rcases List.mem_append.1 hw with hmem | hlast
  · exact hmem
  · rw [List.mem_singleton.1 hlast] at hline
    cases hline

/-- Rows of which none gives way are read one by one. -/
theorem RowLayout.decodeRows_of_calm {header : List String} {width : Nat} {rows : List RawRecord}
    (h : ∀ raw ∈ rows, (layout.outcome header width raw).crashed? = none) (file : Path) (line : Nat)
    (interruption : Option Interruption) :
    layout.decodeRows file line header width rows interruption =
      endFile file (layout.values header width rows) (layout.warnings file line header width rows)
        interruption := by
  have hcalm : ∀ o ∈ rows.map (layout.outcome header width), o.crashed? = none := by
    intro o ho
    obtain ⟨raw, hraw, rfl⟩ := List.mem_map.1 ho
    exact h raw hraw
  have hwhole : (rows.map (layout.outcome header width)).takeWhile (fun o => o.crashed?.isNone)
      = rows.map (layout.outcome header width) :=
    List.takeWhile_eq_self_iff.2 fun o ho => by simp [hcalm o ho]
  unfold decodeRows
  dsimp only
  rw [List.findSome?_eq_none_iff.2 hcalm, hwhole, List.zipIdx_map, List.filterMap_map,
    List.filterMap_map]
  rfl

/-- Values count only if the file was read to its end. -/
theorem endFile_eq_ok {file : Path} {values values' : List α} {warnings : List Warning}
    {interruption : Option Interruption}
    (h : (endFile file values warnings interruption).1 = .ok values') :
    interruption = none ∧ values' = values := by
  unfold endFile at h
  split at h
  · exact ⟨rfl, (Except.ok.inj h).symm⟩
  · cases h
  · cases h

theorem mem_of_mem_endFile {file : Path} {values : List α} {warnings : List Warning}
    {interruption : Option Interruption} {w : Warning} {l : Nat}
    (hw : w ∈ (endFile file values warnings interruption).2) (hline : w.line? = some l) :
    w ∈ warnings := by
  unfold endFile at hw
  split at hw
  · exact hw
  · exact hw
  · exact mem_of_mem_crashFile hw hline

/-- Values are read if no row gives way and the file does not break off, and they are those of the
rows. -/
theorem RowLayout.decodeRows_eq_ok {file : Path} {line : Nat} {header : List String} {width : Nat}
    {rows : List RawRecord} {interruption : Option Interruption} {values : List α}
    (h : (layout.decodeRows file line header width rows interruption).1 = .ok values) :
    (∀ raw ∈ rows, (layout.outcome header width raw).crashed? = none) ∧ interruption = none ∧
      values = layout.values header width rows := by
  unfold decodeRows at h
  dsimp only at h
  split at h
  · cases h
  · next hcalm =>
      obtain ⟨hwhole, rfl⟩ := endFile_eq_ok h
      refine ⟨fun raw hraw => ?_, hwhole, List.filterMap_map⟩
      exact List.findSome?_eq_none_iff.1 hcalm _ (List.mem_map_of_mem hraw)

/-- A warning with a line is about a row, whether the file is read or not. -/
theorem RowLayout.exists_of_mem_decodeRows {file : Path} {line : Nat} {header : List String}
    {width : Nat} {rows : List RawRecord} {interruption : Option Interruption} {w : Warning} {l : Nat}
    (hw : w ∈ (layout.decodeRows file line header width rows interruption).2) (hline : w.line? = some l) :
    ∃ i raw, rows[i]? = some raw ∧ l = line + i ∧
      (layout.outcome header width raw).warning? file l = some w := by
  let outcomes := (rows.map (layout.outcome header width)).takeWhile fun o => o.crashed?.isNone
  have hmem : w ∈ outcomes.zipIdx.filterMap fun o => o.1.warning? file (line + o.2) := by
    unfold decodeRows at hw
    dsimp only at hw
    split at hw
    · exact mem_of_mem_crashFile hw hline
    · exact mem_of_mem_endFile hw hline
  obtain ⟨⟨o, i⟩, ho, hwarning⟩ := List.mem_filterMap.1 hmem
  have hi : outcomes[i]? = some o := List.mem_zipIdx_iff_getElem?.1 ho
  obtain ⟨raw, hraw, rfl⟩ : ∃ raw, rows[i]? = some raw ∧ layout.outcome header width raw = o := by
    have hfront := getElem?_of_prefix (List.takeWhile_prefix _) hi
    rwa [List.getElem?_map, Option.map_eq_some_iff] at hfront
  have hl : l = line + i := by
    have hsame := RowOutcome.line_of_warning? (layout.outcome header width raw) file (line + i)
    rw [hwarning, Option.bind_some, hline] at hsame
    split at hsame
    · exact Option.some.inj hsame
    · cases hsame
  exact ⟨i, raw, hraw, hl, hl ▸ hwarning⟩

theorem filterMap_kept?_of_alike {outcomes outcomes' : List (RowOutcome α)}
    (h : List.Forall₂ RowOutcome.Alike outcomes outcomes') :
    outcomes'.filterMap RowOutcome.kept? = outcomes.filterMap RowOutcome.kept? := by
  induction h with
  | nil => rfl
  | cons halike hrest ih => rw [List.filterMap_cons, List.filterMap_cons, halike.1, ih]

theorem findSome?_crashed?_of_alike {outcomes outcomes' : List (RowOutcome α)}
    (h : List.Forall₂ RowOutcome.Alike outcomes outcomes') :
    outcomes'.findSome? RowOutcome.crashed? = outcomes.findSome? RowOutcome.crashed? := by
  induction h with
  | nil => rfl
  | cons halike hrest ih => rw [List.findSome?_cons, List.findSome?_cons, halike.2, ih]

/-- Skipped rows stand on the same lines under two headers, but for a shift. -/
theorem lines_of_alike {outcomes outcomes' : List (RowOutcome α)}
    (h : List.Forall₂ RowOutcome.Alike outcomes outcomes') (file : Path) (line shift k : Nat) :
    (((outcomes'.takeWhile fun o => o.crashed?.isNone).zipIdx k).filterMap fun o =>
        (o.1.warning? file (line + shift + o.2)).bind Warning.line?)
      = (((outcomes.takeWhile fun o => o.crashed?.isNone).zipIdx k).filterMap fun o =>
          (o.1.warning? file (line + o.2)).bind Warning.line?).map (· + shift) := by
  induction h generalizing k with
  | nil => rfl
  | cons halike hrest ih =>
      simp only [List.takeWhile_cons, ← halike.2]
      split
      · have hline := Nat.add_right_comm line shift k
        simp only [List.zipIdx_cons, List.filterMap_cons, RowOutcome.line_of_warning?,
          RowOutcome.isSkipped_congr halike] at ih ⊢
        split <;> simp_all
      · rfl

theorem lines_crashFile (file : Path) (reason : String) (warnings : List Warning) :
    (crashFile file reason warnings : Except Failure (List α) × List Warning).2.filterMap
        Warning.line?
      = warnings.filterMap Warning.line? := by
  rw [crashFile, List.filterMap_append]
  exact List.append_nil _

theorem lines_endFile (file : Path) (values : List α) (warnings : List Warning)
    (interruption : Option Interruption) :
    (endFile file values warnings interruption).2.filterMap Warning.line?
      = warnings.filterMap Warning.line? := by
  rcases interruption with _ | fault | reason
  · rfl
  · rfl
  · exact lines_crashFile file reason warnings

/-- Rows with outcomes that are alike give the same values, or fail the file alike, and the same rows
are skipped. -/
theorem RowLayout.decodeRows_alike {header header' : List String} {width width' : Nat}
    {rows rows' : List RawRecord}
    (h : List.Forall₂ RowOutcome.Alike (rows.map (layout.outcome header width))
      (rows'.map (layout.outcome header' width')))
    (file : Path) (line shift : Nat) (interruption : Option Interruption) :
    (layout.decodeRows file (line + shift) header' width' rows' interruption).1
        = (layout.decodeRows file line header width rows interruption).1 ∧
      (layout.decodeRows file (line + shift) header' width' rows' interruption).2.filterMap
          Warning.line?
        = ((layout.decodeRows file line header width rows interruption).2.filterMap
            Warning.line?).map (· + shift) := by
  have hlines := lines_of_alike h file line shift 0
  unfold decodeRows
  dsimp only
  rw [filterMap_kept?_of_alike h, findSome?_crashed?_of_alike h]
  cases (rows.map (layout.outcome header width)).findSome? RowOutcome.crashed? with
  | some reason =>
      refine ⟨rfl, ?_⟩
      simp only [lines_crashFile, List.filterMap_filterMap, hlines]
  | none =>
      refine ⟨?_, ?_⟩
      · rcases interruption with _ | fault | reason <;> rfl
      · simp only [lines_endFile, List.filterMap_filterMap, hlines]

/-! ### Layouts that never give way -/

/-- A layout whose conversion never gives way, whatever the cells. -/
def RowLayout.Calm (layout : RowLayout α) : Prop :=
  ∀ cells reason, layout.convert cells ≠ .crash reason

theorem RowLayout.Calm.crashed?_outcome (h : layout.Calm) (header : List String) (width : Nat)
    (raw : RawRecord) : (layout.outcome header width raw).crashed? = none := by
  rw [outcome]
  split
  · rfl
  · split
    · rfl
    · split
      · rfl
      · next cells _ =>
          cases hconvert : layout.convert cells with
          | keep value => rfl
          | reject reason => rfl
          | crash reason => exact (h cells reason hconvert).elim

/-! ### Files -/

/-- How the rows of a file are read. -/
structure Sheet where
  header : List String
  width : Nat
  /-- the number of records in front of the rows -/
  above : Nat

/-- The number of fields of the first record. -/
def firstWidth (raws : List RawRecord) : Nat := (raws.head?.map List.length).getD 0

/-- The rows stand below the first record, or are all records of a file without a header. There are
none if the header cannot be read. -/
def RowLayout.sheet? (layout : RowLayout α) (hasHeader : Bool) (raws : List RawRecord) :
    Option Sheet :=
  match hasHeader, raws with
  | true, [] => none
  | true, first :: _ => (texts? first).map fun header => ⟨header, first.length, 1⟩
  | false, raws => some ⟨layout.canonicalHeader, firstWidth raws, 0⟩

theorem RowLayout.decodeRecords_of_sheet {hasHeader : Bool} {raws : List RawRecord} {sheet : Sheet}
    (h : layout.sheet? hasHeader raws = some sheet) (file : Path)
    (interruption : Option Interruption) :
    layout.decodeRecords hasHeader file raws interruption
      = layout.decodeRows file (sheet.above + 1) sheet.header sheet.width (raws.drop sheet.above)
          interruption := by
  cases hasHeader with
  | false =>
      cases h
      rfl
  | true =>
      cases raws with
      | nil => cases h
      | cons first rest =>
          obtain ⟨header, hheader, rfl⟩ := Option.map_eq_some_iff.1 h
          unfold decodeRecords
          dsimp only
          rw [hheader]
          rfl

/-- Without a header that can be read there are no warnings about rows, and no values. -/
theorem RowLayout.decodeRecords_of_no_sheet {hasHeader : Bool} {raws : List RawRecord}
    (h : layout.sheet? hasHeader raws = none) (file : Path) (interruption : Option Interruption) :
    (∀ w ∈ (layout.decodeRecords hasHeader file raws interruption).2, w.line? = none) ∧
      ∀ values, (layout.decodeRecords hasHeader file raws interruption).1 = .ok values →
        hasHeader = true ∧ raws = [] ∧ values = [] := by
  cases hasHeader with
  | false => cases h
  | true =>
      cases raws with
      | nil =>
          rcases interruption with _ | fault | reason
          · refine ⟨fun _ hw => (List.not_mem_nil hw).elim, fun _ hok => ?_⟩
            cases hok
            exact ⟨rfl, rfl, rfl⟩
          · exact ⟨fun _ hw => (List.not_mem_nil hw).elim, fun _ hok => by cases hok⟩
          · refine ⟨fun w hw => ?_, fun _ hok => by cases hok⟩
            rw [List.mem_singleton.1 hw]
            rfl
      | cons first rest =>
          have hheader : texts? first = none := Option.map_eq_none_iff.1 h
          unfold decodeRecords
          dsimp only
          rw [hheader]
          exact ⟨fun _ hw => (List.not_mem_nil hw).elim, fun _ hok => by cases hok⟩

/-- A warning with a line is about a row, and the line counts the records up to it. -/
theorem RowLayout.exists_of_mem_decodeRecords {hasHeader : Bool} {file : Path} {raws : List RawRecord}
    {interruption : Option Interruption} {w : Warning} {line : Nat}
    (hw : w ∈ (layout.decodeRecords hasHeader file raws interruption).2) (hline : w.line? = some line) :
    ∃ sheet i raw, layout.sheet? hasHeader raws = some sheet ∧ sheet.above ≤ i ∧
      raws[i]? = some raw ∧ line = i + 1 ∧
      (layout.outcome sheet.header sheet.width raw).warning? file line = some w := by
  cases hsheet : layout.sheet? hasHeader raws with
  | none =>
      rw [(decodeRecords_of_no_sheet hsheet file interruption).1 w hw] at hline
      cases hline
  | some sheet =>
      rw [decodeRecords_of_sheet hsheet] at hw
      obtain ⟨i, raw, hraw, hl, hwarning⟩ := exists_of_mem_decodeRows hw hline
      rw [List.getElem?_drop] at hraw
      exact ⟨sheet, sheet.above + i, raw, rfl, Nat.le_add_right _ _, hraw, by omega, hwarning⟩

/-- The first record decides how the rows are read. -/
theorem RowLayout.sheet?_append (hasHeader : Bool) {front : List RawRecord} (h : front ≠ [])
    (rest others : List RawRecord) :
    layout.sheet? hasHeader (front ++ rest) = layout.sheet? hasHeader (front ++ others) := by
  cases front with
  | nil => exact (h rfl).elim
  | cons first front => cases hasHeader <;> rfl

/-- A file is read as the values of its rows, if the layout never gives way. -/
theorem RowLayout.Calm.decode_of_sheet (hcalm : layout.Calm) {hasHeader : Bool} {content : Bytes}
    {sheet : Sheet} (h : layout.sheet? hasHeader (records content) = some sheet) (file : Path) :
    (layout.decode hasHeader file (.whole content)).1
      = .ok (layout.values sheet.header sheet.width ((records content).drop sheet.above)) := by
  rw [decode, decodeRecords_of_sheet h,
    decodeRows_of_calm fun raw _ => hcalm.crashed?_outcome sheet.header sheet.width raw]
  rfl

/-- A value that is read is made of the trimmed texts of a record. -/
theorem RowLayout.exists_of_mem_decode {hasHeader : Bool} {file : Path} {source : Source}
    {values : List α} {value : α} (h : (layout.decode hasHeader file source).1 = .ok values)
    (hvalue : value ∈ values) :
    ∃ raw header row cells, texts? raw = some row ∧ bindRow layout.columns header row = .ok cells ∧
      layout.convert cells = .keep value := by
  have hrecords : ∀ raws interruption,
      (layout.decodeRecords hasHeader file raws interruption).1 = .ok values →
      ∃ raw header row cells, texts? raw = some row ∧
        bindRow layout.columns header row = .ok cells ∧ layout.convert cells = .keep value := by
    intro raws interruption hdecode
    cases hsheet : layout.sheet? hasHeader raws with
    | none =>
        obtain ⟨-, -, rfl⟩ := (decodeRecords_of_no_sheet hsheet file interruption).2 values hdecode
        cases hvalue
    | some sheet =>
        rw [decodeRecords_of_sheet hsheet] at hdecode
        obtain ⟨-, -, rfl⟩ := decodeRows_eq_ok hdecode
        obtain ⟨raw, -, hkept⟩ := List.mem_filterMap.1 hvalue
        obtain ⟨-, row, cells, hrow, hcells, hconvert⟩ := exists_of_outcome hkept
        exact ⟨raw, sheet.header, row, cells, hrow, hcells, hconvert⟩
  unfold decode at h
  cases source with
  | whole content => exact hrecords _ _ h
  | broken content fault => exact hrecords _ _ h
  | crashing reason => exact hrecords _ _ h

/-! ### A layout of two columns -/

/-- Names with whole numbers, of which every row is kept. -/
def tallyLayout (canonicalHeader : List String) : RowLayout (String × Int) where
  columns := [⟨"Id", .text⟩, ⟨"Value", .integer⟩]
  canonicalHeader := canonicalHeader
  convert
    | [.text id, .integer n] => .keep (id, n)
    | _ => .reject "no row"

theorem tallyLayout_calm (canonicalHeader : List String) : (tallyLayout canonicalHeader).Calm := by
  intro cells reason h
  unfold tallyLayout at h
  dsimp only at h
  split at h <;> cases h

end LedgerMatch.Csv
