import LedgerMatch.Proofs.Csv.Decoder
import LedgerMatch.Proofs.Csv.Position

/-!
# Lines of rows that are skipped

The line in a warning counts the records up to the row. The row stands further down by as many lines
as hold no record of their own: the blank ones, and those on which a quoted field goes on.
-/

namespace LedgerMatch

/-- What can be read of an opened file. -/
def Source.content : Source → Bytes
  | whole content => content
  | broken content _ => content
  | @crashing content _ => content

namespace Csv

open Text

/-! ### Lines of a file -/

/-- Whether a byte ends a line. A line feed behind a carriage return ends none of its own. -/
def endsLine (afterReturn : Bool) (b : UInt8) : Bool := b == 13 || b == 10 && !afterReturn

/-- The number of lines that end in a part of a file. -/
def lineEnds (afterReturn : Bool) : Bytes → Nat
  | [] => 0
  | b :: bs => (endsLine afterReturn b).toNat + lineEnds (b == 13) bs

/-- The line, counted from one, on which begins what is behind a part of a file. -/
def lineBehind (front : Bytes) : Nat := lineEnds false front + 1

/-- The number of lines that end while the reader is in a place. -/
def lineEndsIn (place : Place) (s : Cutter) (afterReturn : Bool) : Bytes → Nat
  | [] => 0
  | b :: bs =>
      (decide (s.place = place) && endsLine afterReturn b).toNat
        + lineEndsIn place (s.step b) (b == 13) bs

/-- The number of lines in front of a record that hold nothing. -/
def blankLines (front : Bytes) : Nat := lineEndsIn .recordStart {} false (dropMark front)

/-- The number of lines in front of a record that end inside quotes. -/
def quotedLines (front : Bytes) : Nat := lineEndsIn .quoted {} false (dropMark front)

theorem endsLine_of_isLineEnd {b : UInt8} (h : Cutter.isLineEnd b = true) :
    endsLine false b = true := by
  rw [Cutter.isLineEnd, Bool.or_comm] at h
  simpa [endsLine] using h

theorem endsLine_of_not_isLineEnd {b : UInt8} (h : Cutter.isLineEnd b = false)
    (afterReturn : Bool) : endsLine afterReturn b = false := by
  rw [Cutter.isLineEnd, Bool.or_eq_false_iff] at h
  rw [endsLine, h.1, h.2]
  rfl

/-- A mark at the front ends no line. -/
theorem lineEnds_dropMark (front : Bytes) : lineEnds false (dropMark front) = lineEnds false front := by
  rcases dropMark_cases front with hnone | hmark
  · rw [hnone]
  · conv_rhs => rw [hmark]
    simp [lineEnds, endsLine]

namespace Cutter

/-- Behind a carriage return a record has just ended, or the field is a quoted one. -/
def MayFollowReturn (s : Cutter) (afterReturn : Bool) : Prop :=
  afterReturn = true → s.place = .recordStart ∨ s.place = .quoted

theorem mayFollowReturn_step (s : Cutter) (b : UInt8) : (s.step b).MayFollowReturn (b == 13) := by
  intro hb
  have hend : isLineEnd b = true := by rw [isLineEnd, hb, Bool.or_true]
  cases s.stepKind b with
  | blank between _ same => exact Or.inl (by rw [same, between])
  | close _ _ _ closed => exact Or.inl (by rw [closed]; rfl)
  | quote _ _ kept => exact Or.inr (by rw [kept]; rfl)
  | go ends _ _ =>
      rw [hend] at ends
      cases ends

/-- A step that ends a line ends a blank one, or one inside quotes, or a record. -/
theorem lineEnd_of_step {s : Cutter} {afterReturn : Bool} (h : s.MayFollowReturn afterReturn)
    (b : UInt8) :
    (endsLine afterReturn b).toNat + s.records.length
      = (s.step b).records.length + (decide (s.place = .recordStart) && endsLine afterReturn b).toNat
        + (decide (s.place = .quoted) && endsLine afterReturn b).toNat := by
  cases s.stepKind b with
  | blank between _ same => simp [same, between, Nat.add_comm]
  | close begun outside ends closed =>
      have hfirst : afterReturn = false := by
        by_contra hreturn
        rcases h (by simpa using hreturn) with hplace | hplace
        · exact begun hplace
        · exact outside hplace
      subst hfirst
      simp [closed, begun, outside, endsLine_of_isLineEnd ends, endRecord, Nat.add_comm]
  | quote inside _ kept => simp [kept, inside, push, Nat.add_comm]
  | go ends _ same => simp [same, endsLine_of_not_isLineEnd ends]

/-- Lines that end are those of records, blank ones, and those that end inside quotes. -/
theorem lineEnds_add_records {s : Cutter} {afterReturn : Bool} (h : s.MayFollowReturn afterReturn)
    (bs : Bytes) :
    lineEnds afterReturn bs + s.records.length
      = (bs.foldl step s).records.length + lineEndsIn .recordStart s afterReturn bs
        + lineEndsIn .quoted s afterReturn bs := by
  induction bs generalizing s afterReturn with
  | nil => simp [lineEnds, lineEndsIn]
  | cons b bs ih =>
      have hstep := lineEnd_of_step h b
      have hrest := ih (s.mayFollowReturn_step b)
      rw [lineEnds, lineEndsIn, lineEndsIn, List.foldl_cons]
      omega

end Cutter

/-- The line of a record is that of its place among the records, but for blank lines and lines that
end inside quotes. -/
theorem Stands.lineBehind_eq {content front own behind : Bytes} {before : List RawRecord}
    {r : RawRecord} (h : Stands content front own behind before r) :
    lineBehind front = before.length + 1 + blankLines front + quotedLines front := by
  have hstart : ({} : Cutter).MayFollowReturn false := fun hreturn => by cases hreturn
  have hcount := Cutter.lineEnds_add_records hstart (dropMark front)
  have hrecords : ((dropMark front).foldl Cutter.step {}).records.length = before.length := by
    have hread : (dropMark front).foldl Cutter.step {} = { records := before.reverse } := h.front_reads
    rw [hread, List.length_reverse]
  rw [lineEnds_dropMark, hrecords] at hcount
  have hnone : ({} : Cutter).records.length = 0 := rfl
  unfold lineBehind blankLines quotedLines
  omega

/-! ### What is told of rows -/

variable {α : Type} {layout : RowLayout α}

/-- The value of a row, or the warning about it. -/
def RowOutcome.told (file : Path) (line : Nat) : RowOutcome α → α ⊕ Warning
  | kept value => .inl value
  | unreadable fault => .inr (.unreadableRow file line fault)
  | undecodable fault => .inr (.undecodableRow file line fault)
  | crashed reason => .inr (.decoderCrashed file ("recovered from panic: " ++ reason))

/-- What is told of rows, the first of which stands on the given line. -/
def RowLayout.told (layout : RowLayout α) (file : Path) (line : Nat) (header : List String)
    (width : Nat) (rows : List RawRecord) : List (α ⊕ Warning) :=
  rows.zipIdx.map fun r => (layout.outcome header width r.1).told file (line + r.2)

theorem RowOutcome.getLeft?_told (o : RowOutcome α) (file : Path) (line : Nat) :
    (o.told file line).getLeft? = o.kept? := by
  cases o <;> rfl

theorem RowOutcome.getRight?_told {o : RowOutcome α} (h : o.crashed? = none) (file : Path)
    (line : Nat) : (o.told file line).getRight? = o.warning? file line := by
  cases o with
  | crashed reason => cases h
  | _ => rfl

/-- What is told of rows are their values, each in its place. -/
theorem RowLayout.filterMap_getLeft?_told (file : Path) (line : Nat) (header : List String)
    (width : Nat) (rows : List RawRecord) :
    (layout.told file line header width rows).filterMap Sum.getLeft?
      = layout.values header width rows := by
  have hrows := List.zipIdx_map_fst 0 rows
  rw [told, values, List.filterMap_map]
  conv_rhs => rw [← hrows, List.filterMap_map]
  congr 1
  funext r
  exact RowOutcome.getLeft?_told _ _ _

/-- The rest of what is told of rows are the warnings, if no row gives way. -/
theorem RowLayout.filterMap_getRight?_told {header : List String} {width : Nat}
    {rows : List RawRecord} (h : ∀ raw ∈ rows, (layout.outcome header width raw).crashed? = none)
    (file : Path) (line : Nat) :
    (layout.told file line header width rows).filterMap Sum.getRight?
      = layout.warnings file line header width rows := by
  have hall : ∀ k, ((rows.zipIdx k).map fun r =>
        (layout.outcome header width r.1).told file (line + r.2)).filterMap Sum.getRight?
      = (rows.zipIdx k).filterMap fun r =>
        (layout.outcome header width r.1).warning? file (line + r.2) := by
    induction rows with
    | nil => exact fun _ => rfl
    | cons raw rows ih =>
        intro k
        have hrest := ih (fun other hother => h other (List.mem_cons_of_mem _ hother)) (k + 1)
        rw [List.zipIdx_cons, List.map_cons, List.filterMap_cons, List.filterMap_cons,
          RowOutcome.getRight?_told (h raw List.mem_cons_self), hrest]
  exact hall 0

/-- A row is told of as its value or with a warning on its own line. -/
theorem RowLayout.line_of_told {header : List String} {width : Nat} {rows : List RawRecord}
    (h : ∀ raw ∈ rows, (layout.outcome header width raw).crashed? = none) {file : Path}
    {line i : Nat} {w : Warning}
    (hw : (layout.told file line header width rows)[i]? = some (.inr w)) :
    w.line? = some (line + i) := by
  rw [told, List.getElem?_map, List.getElem?_zipIdx, Option.map_map] at hw
  obtain ⟨raw, hraw, htold⟩ := Option.map_eq_some_iff.1 hw
  have hcalm := h raw (List.mem_of_getElem? hraw)
  revert htold hcalm
  simp only [Function.comp, Nat.zero_add]
  cases layout.outcome header width raw with
  | kept value => exact fun htold => by cases htold
  | crashed reason => exact fun _ hcalm => by cases hcalm
  | _ => exact fun htold _ => by cases htold; rfl

/-! ### Files -/

/-- The last record of a content that breaks off does not count, the others do. -/
theorem closedRecords_prefix_records (content : Bytes) : closedRecords content <+: records content := by
  rw [closedRecords, records, Cutter.finish]
  split
  · exact List.prefix_rfl
  · rw [Cutter.endRecord, List.reverse_cons]
    exact List.prefix_append _ _

/-- A warning with a line is about a record of what can be read of a file. -/
theorem RowLayout.exists_of_warning {hasHeader : Bool} {file : Path} {source : Source} {w : Warning}
    {line : Nat} (hw : w ∈ (layout.decode hasHeader file source).2) (hline : w.line? = some line) :
    ∃ sheet i raw, layout.sheet? hasHeader (records source.content) = some sheet ∧ sheet.above ≤ i ∧
      (records source.content)[i]? = some raw ∧ line = i + 1 ∧
      (layout.outcome sheet.header sheet.width raw).warning? file line = some w := by
  -- a file that is not read to its end has the records of its content, but for the last one
  have hclosed : ∀ content interruption,
      w ∈ (layout.decodeRecords hasHeader file (closedRecords content) interruption).2 →
      ∃ sheet i raw, layout.sheet? hasHeader (records content) = some sheet ∧ sheet.above ≤ i ∧
        (records content)[i]? = some raw ∧ line = i + 1 ∧
        (layout.outcome sheet.header sheet.width raw).warning? file line = some w := by
    intro content interruption hmem
    obtain ⟨sheet, i, raw, hsheet, habove, hraw, hl, hwarning⟩ :=
      exists_of_mem_decodeRecords hmem hline
    obtain ⟨rest, hrest⟩ := closedRecords_prefix_records content
    have hne : closedRecords content ≠ [] := by
      intro hnil
      rw [hnil] at hraw
      cases hraw
    have hsame : layout.sheet? hasHeader (closedRecords content ++ rest) = _ :=
      sheet?_append hasHeader hne rest []
    rw [hrest, List.append_nil, hsheet] at hsame
    exact ⟨sheet, i, raw, hsame, habove,
      getElem?_of_prefix (closedRecords_prefix_records content) hraw, hl, hwarning⟩
  cases source with
  | whole content => exact exists_of_mem_decodeRecords hw hline
  | broken content fault => exact hclosed content _ hw
  | @crashing content reason => exact hclosed content _ hw

theorem RowLayout.above_of_sheet {hasHeader : Bool} {raws : List RawRecord} {sheet : Sheet}
    (h : layout.sheet? hasHeader raws = some sheet) : sheet.above = hasHeader.toNat := by
  unfold sheet? at h
  split at h
  · cases h
  · obtain ⟨header, -, rfl⟩ := Option.map_eq_some_iff.1 h
    rfl
  · cases h
    rfl

/-- A file that is read to its end: its header is text, if it should have one, and no row gives way. -/
structure RowLayout.Readable (layout : RowLayout α) (hasHeader : Bool) (raws : List RawRecord) :
    Prop where
  header : hasHeader = true → ∀ first ∈ raws.head?, (texts? first).isSome = true
  rows : ∀ sheet, layout.sheet? hasHeader raws = some sheet → ∀ raw ∈ raws.drop sheet.above,
    (layout.outcome sheet.header sheet.width raw).crashed? = none

theorem RowLayout.Readable.exists_sheet {hasHeader : Bool} {raws : List RawRecord}
    (h : layout.Readable hasHeader raws) (hne : hasHeader = true → raws ≠ []) :
    ∃ sheet, layout.sheet? hasHeader raws = some sheet := by
  cases hasHeader with
  | false => exact ⟨_, rfl⟩
  | true =>
      cases raws with
      | nil => exact (hne rfl rfl).elim
      | cons first rest =>
          obtain ⟨header, hheader⟩ := Option.isSome_iff_exists.1 (h.header rfl first rfl)
          exact ⟨_, Option.map_eq_some_iff.2 ⟨header, hheader, rfl⟩⟩

/-- Each row of a file that is read to its end has a value or a warning on its own line. -/
theorem RowLayout.Readable.decodeRecords {hasHeader : Bool} {raws : List RawRecord}
    (h : layout.Readable hasHeader raws) (file : Path) :
    ∃ told : List (α ⊕ Warning), told.length = raws.length - hasHeader.toNat ∧
      layout.decodeRecords hasHeader file raws none
        = (.ok (told.filterMap Sum.getLeft?), told.filterMap Sum.getRight?) ∧
      ∀ i w, told[i]? = some (.inr w) → w.line? = some (hasHeader.toNat + i + 1) := by
  by_cases hempty : hasHeader = true ∧ raws = []
  · obtain ⟨rfl, rfl⟩ := hempty
    exact ⟨[], rfl, rfl, by simp⟩
  · obtain ⟨sheet, hsheet⟩ := h.exists_sheet fun htrue hnil => hempty ⟨htrue, hnil⟩
    have habove := above_of_sheet hsheet
    have hcalm := h.rows sheet hsheet
    refine ⟨layout.told file (sheet.above + 1) sheet.header sheet.width (raws.drop sheet.above),
      ?_, ?_, ?_⟩
    · rw [told, List.length_map, List.length_zipIdx, List.length_drop, habove]
    · rw [decodeRecords_of_sheet hsheet, decodeRows_of_calm hcalm, filterMap_getLeft?_told,
        filterMap_getRight?_told hcalm]
      rfl
    · intro i w hw
      rw [line_of_told hcalm hw, habove, Nat.add_right_comm]

/-- A warning about a row tells the place of its record among the records of the file. The line on
which the record begins is as much further down as there are blank lines, and lines that end inside
quotes, in front of it. In a file that is read to its end each data record has a value or a warning,
and never both. -/
theorem decode_tells_each_record (layout : RowLayout α) (hasHeader : Bool) (file : Path) :
    (∀ source w line, w ∈ (layout.decode hasHeader file source).2 → w.line? = some line →
      ∃ sheet front own behind before raw, Stands source.content front own behind before raw ∧
        layout.sheet? hasHeader (records source.content) = some sheet ∧
        sheet.above ≤ before.length ∧
        (layout.outcome sheet.header sheet.width raw).warning? file line = some w ∧
        line = before.length + 1 ∧
        lineBehind front = line + blankLines front + quotedLines front) ∧
      ∀ content, layout.Readable hasHeader (records content) →
        ∃ told : List (α ⊕ Warning), told.length = (records content).length - hasHeader.toNat ∧
          layout.decode hasHeader file (.whole content)
            = (.ok (told.filterMap Sum.getLeft?), told.filterMap Sum.getRight?) ∧
          ∀ i w, told[i]? = some (.inr w) → w.line? = some (hasHeader.toNat + i + 1) := by
  constructor
  · intro source w line hw hline
    obtain ⟨sheet, i, raw, hsheet, habove, hraw, rfl, hwarning⟩ :=
      RowLayout.exists_of_warning hw hline
    obtain ⟨front, own, behind, hstands⟩ := exists_stands hraw
    have hlength := length_take_of_getElem? hraw
    have hlines := hstands.lineBehind_eq
    rw [hlength] at hlines
    exact ⟨sheet, front, own, behind, _, raw, hstands, hsheet, by rw [hlength]; exact habove, hwarning,
      by rw [hlength], hlines⟩
  · intro content hreadable
    exact hreadable.decodeRecords file

/-- A file with a field on two lines, and a blank line. -/
def unevenFile : Bytes := encode "Id,Value\r\n\"a\nb\",x\r\n\r\nc,3\r\nd\r\n"

theorem unevenFile_tells_each_record :
    (∃ front own behind before raw, Stands unevenFile front own behind before raw ∧
      raw = [encode "d"] ∧ 4 = before.length + 1 ∧
      lineBehind front = 4 + blankLines front + quotedLines front) ∧
    ∃ told : List ((String × Int) ⊕ Warning), told.length = 3 ∧
      told.filterMap Sum.getLeft? = [("c", 3)] ∧
      told.filterMap Sum.getRight?
        = [.undecodableRow ⟨"/x.csv"⟩ 2 (.integer 1 .invalidDigit),
          .unreadableRow ⟨"/x.csv"⟩ 4 (.fieldCount 1 2)] := by
  obtain ⟨hlines, htold⟩ := decode_tells_each_record (tallyLayout ["Id", "Value"]) true ⟨"/x.csv"⟩
  have hdecode : (tallyLayout ["Id", "Value"]).decode true ⟨"/x.csv"⟩ (.whole unevenFile)
      = (.ok [("c", 3)], [.undecodableRow ⟨"/x.csv"⟩ 2 (.integer 1 .invalidDigit),
          .unreadableRow ⟨"/x.csv"⟩ 4 (.fieldCount 1 2)]) := by
    decide +kernel
  constructor
  · obtain ⟨sheet, front, own, behind, before, raw, hstands, -, -, -, hplace, hfront⟩ :=
      hlines (.whole unevenFile) (.unreadableRow ⟨"/x.csv"⟩ 4 (.fieldCount 1 2)) 4
        (by rw [hdecode]; simp) rfl
    have hraw : (before ++ raw :: recordsIn behind)[3]? = some [encode "d"] := by
      rw [← hstands.records_eq]
      decide +kernel
    have hthird : 3 = before.length := Nat.succ.inj hplace
    rw [List.getElem?_append_right (Nat.le_of_eq hthird.symm), ← hthird] at hraw
    exact ⟨front, own, behind, before, raw, hstands, Option.some.inj hraw, hplace, hfront⟩
  · have hheader : ∀ first ∈ (records unevenFile).head?, (texts? first).isSome = true := by
      decide +kernel
    have hthree : (records unevenFile).length - true.toNat = 3 := by decide +kernel
    obtain ⟨told, hlength, htells, -⟩ := htold unevenFile
      ⟨fun _ => hheader, fun sheet _ raw _ => (tallyLayout_calm _).crashed?_outcome _ _ raw⟩
    rw [hdecode] at htells
    obtain ⟨hvalues, hwarnings⟩ := Prod.mk.inj htells
    exact ⟨told, hlength.trans hthree, (Except.ok.inj hvalues).symm, hwarnings.symm⟩

/-- A file with a blank line in front of a row that cannot be read. -/
def blankLineFile : Bytes := encode "Id,Value\n\na,x\n"

/-- The row on the third line is told of as if it were on the second. -/
theorem blankLineFile_line_differs :
    ((tallyLayout ["Id", "Value"]).decode true ⟨"/x.csv"⟩ (.whole blankLineFile)).2
        = [.undecodableRow ⟨"/x.csv"⟩ 2 (.integer 1 .invalidDigit)] ∧
      Stands blankLineFile (encode "Id,Value\n\n") (encode "a,x\n") []
        [[encode "Id", encode "Value"]] [encode "a", encode "x"] ∧
      lineBehind (encode "Id,Value\n\n") = 3 :=
  ⟨by decide +kernel,
    ⟨by decide +kernel, by decide +kernel, by decide +kernel,
      ⟨97, encode ",x\n", by decide +kernel, by decide⟩, Or.inl (by decide +kernel)⟩,
    by decide +kernel⟩

end Csv

end LedgerMatch
