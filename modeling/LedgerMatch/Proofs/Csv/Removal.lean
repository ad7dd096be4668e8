import LedgerMatch.Proofs.Csv.Decoder
import LedgerMatch.Proofs.Csv.Position

/-!
# Rows that are skipped

A row that is skipped can be taken out of its file: the values of the other rows stay as they are.
The first row of a file without a header is the exception, as its fields are counted for all others.
-/

namespace LedgerMatch.Csv

open Text

variable {α : Type} {layout : RowLayout α} {raw : RawRecord} {before rest : List RawRecord}

/-- A row that has a warning has no value. -/
theorem RowOutcome.kept?_of_warning? {o : RowOutcome α} {file : Path} {line : Nat} {w : Warning}
    (h : o.warning? file line = some w) : o.kept? = none := by
  cases o with
  | kept value => cases h
  | _ => rfl

/-- Rows below a header, or below other rows, have the same values without one that is skipped. -/
theorem RowLayout.values_drop_without {header : List String} {width above : Nat}
    (hskipped : (layout.outcome header width raw).kept? = none) (habove : above ≤ before.length) :
    layout.values header width ((before ++ rest).drop above)
      = layout.values header width ((before ++ raw :: rest).drop above) := by
  rw [List.drop_append_of_le_length habove, List.drop_append_of_le_length habove, values_append,
    values_append, values_cons_of_skipped hskipped]

/-- The row is behind another record, which decides how all rows are read. -/
theorem RowLayout.Calm.decode_without (hcalm : layout.Calm) {hasHeader : Bool} {content : Bytes}
    {sheet : Sheet} (hrecords : records content = before ++ raw :: rest)
    (hsheet : layout.sheet? hasHeader (records content) = some sheet)
    (hskipped : (layout.outcome sheet.header sheet.width raw).kept? = none)
    (habove : sheet.above ≤ before.length) (hbefore : before ≠ []) {other : Bytes}
    (hother : records other = before ++ rest) (file : Path) :
    (layout.decode hasHeader file (.whole other)).1
      = (layout.decode hasHeader file (.whole content)).1 := by
  have hsame : layout.sheet? hasHeader (records other) = some sheet := by
    rw [hother, sheet?_append hasHeader hbefore rest (raw :: rest), ← hrecords]
    exact hsheet
  rw [hcalm.decode_of_sheet hsame, hcalm.decode_of_sheet hsheet, hother, hrecords,
    values_drop_without hskipped habove]

/-- The row is the first record of a file without a header. -/
theorem RowLayout.Calm.decode_without_first_iff (hcalm : layout.Calm) {content : Bytes}
    (hrecords : records content = raw :: rest)
    (hskipped : (layout.outcome layout.canonicalHeader raw.length raw).kept? = none) (other : Bytes)
    (file : Path) :
    (layout.decode false file (.whole other)).1 = (layout.decode false file (.whole content)).1 ↔
      layout.values layout.canonicalHeader (firstWidth (records other)) (records other)
        = layout.values layout.canonicalHeader raw.length rest := by
  have hall : ∀ bytes : Bytes, layout.sheet? false (records bytes)
      = some ⟨layout.canonicalHeader, firstWidth (records bytes), 0⟩ := fun _ => rfl
  have hwidth : firstWidth (records content) = raw.length := by rw [hrecords]; rfl
  rw [hcalm.decode_of_sheet (hall other), hcalm.decode_of_sheet (hall content), Except.ok.injEq]
  show layout.values _ _ (records other) = layout.values _ _ (records content) ↔ _
  rw [hwidth, hrecords, values_cons_of_skipped hskipped]

/-- A row that is skipped stands somewhere in its file. Taken out, it leaves the values as they are,
unless it is the first record of a file without a header: then the others have to give the same values
with the number of fields of the next record as with its own. -/
theorem decode_without_skipped_iff (hcalm : layout.Calm) {hasHeader : Bool} {file : Path}
    {content : Bytes} {w : Warning} {i : Nat}
    (hw : w ∈ (layout.decode hasHeader file (.whole content)).2) (hline : w.line? = some (i + 1)) :
    ∃ raw, (records content)[i]? = some raw ∧
      (∃ front own behind, Stands content front own behind ((records content).take i) raw) ∧
      ∀ front own behind, Stands content front own behind ((records content).take i) raw →
        (front ≠ [] ∨ dropMark behind = behind →
          records (front ++ behind) = (records content).eraseIdx i) ∧
        ((layout.decode hasHeader file (.whole (front ++ behind))).1
            = (layout.decode hasHeader file (.whole content)).1 ↔
          0 < i ∨
            layout.values layout.canonicalHeader (firstWidth (records (front ++ behind)))
                (records (front ++ behind))
              = layout.values layout.canonicalHeader raw.length (records content).tail) := by
  obtain ⟨sheet, j, raw, hsheet, habove, hraw, hj, hwarning⟩ :=
    RowLayout.exists_of_mem_decodeRecords hw hline
  obtain rfl : i = j := Nat.succ.inj hj
  have hskipped := RowOutcome.kept?_of_warning? hwarning
  have hlength := length_take_of_getElem? hraw
  refine ⟨raw, hraw, exists_stands hraw, fun front own behind hstands => ⟨fun hmark => ?_, ?_⟩⟩
  · have herase : (records content).eraseIdx i
        = (records content).take i ++ recordsIn behind := by
      conv_lhs => rw [hstands.records_eq]
      rw [List.eraseIdx_append_of_length_le (Nat.le_of_eq hlength), hlength, Nat.sub_self]
      rfl
    rw [hstands.records_without hmark, herase]
  · by_cases hi : 0 < i
    · have hbefore : (records content).take i ≠ [] := by
        intro hnil
        rw [hnil] at hlength
        exact absurd hlength (Nat.ne_of_lt hi)
      simp only [hi, true_or, iff_true]
      exact hcalm.decode_without hstands.records_eq hsheet hskipped (by rw [hlength]; exact habove)
        hbefore (hstands.records_without (Or.inl (hstands.front_ne hbefore))) file
    · obtain rfl : i = 0 := by omega
      have hrecords : records content = raw :: recordsIn behind := hstands.records_eq
      cases hasHeader with
      | true =>
          rw [hrecords] at hsheet
          obtain ⟨header, -, rfl⟩ := Option.map_eq_some_iff.1 hsheet
          exact absurd habove (by simp)
      | false =>
          rw [hrecords] at hsheet
          cases hsheet
          rw [hcalm.decode_without_first_iff hrecords hskipped, hrecords]
          simp

/-- A file without a header, whose second row is too short. -/
def shortSecondRow : Bytes := encode "b,2\na\nc,3\n"

theorem shortSecondRow_decode_without :
    Warning.unreadableRow ⟨"/x.csv"⟩ 2 (.fieldCount 1 2)
        ∈ ((tallyLayout ["Id", "Value"]).decode false ⟨"/x.csv"⟩ (.whole shortSecondRow)).2 ∧
      Stands shortSecondRow (encode "b,2\n") (encode "a\n") (encode "c,3\n")
        [[encode "b", encode "2"]] [encode "a"] ∧
      records (encode "b,2\n" ++ encode "c,3\n") = (records shortSecondRow).eraseIdx 1 ∧
      ((tallyLayout ["Id", "Value"]).decode false ⟨"/x.csv"⟩
          (.whole (encode "b,2\n" ++ encode "c,3\n"))).1
        = ((tallyLayout ["Id", "Value"]).decode false ⟨"/x.csv"⟩ (.whole shortSecondRow)).1 := by
  have hw : Warning.unreadableRow ⟨"/x.csv"⟩ 2 (.fieldCount 1 2)
      ∈ ((tallyLayout ["Id", "Value"]).decode false ⟨"/x.csv"⟩ (.whole shortSecondRow)).2 := by
    decide +kernel
  have hstands : Stands shortSecondRow (encode "b,2\n") (encode "a\n") (encode "c,3\n")
      [[encode "b", encode "2"]] [encode "a"] :=
    ⟨by decide +kernel, by decide +kernel, by decide +kernel,
      ⟨97, [10], by decide +kernel, by decide⟩, Or.inl (by decide +kernel)⟩
  obtain ⟨raw, hraw, -, hall⟩ := decode_without_skipped_iff (i := 1) (tallyLayout_calm _) hw rfl
  obtain rfl : [encode "a"] = raw := by
    rw [hstands.records_eq] at hraw
    exact Option.some.inj hraw
  have htake : (records shortSecondRow).take 1 = [[encode "b", encode "2"]] := by decide +kernel
  rw [htake] at hall
  obtain ⟨herase, hvalues⟩ := hall _ _ _ hstands
  exact ⟨hw, hstands, herase (Or.inl (by decide +kernel)), hvalues.2 (Or.inl Nat.one_pos)⟩

/-- A file without a header, whose first row is too short. -/
def shortFirstRow : Bytes := encode "a\nb,2\nc,3\n"

/-- A first row that is too short hides all others, which are read without it. -/
theorem shortFirstRow_hides_rows :
    (tallyLayout ["Id", "Value"]).Calm ∧
      Warning.undecodableRow ⟨"/x.csv"⟩ 1 .rowEnded
        ∈ ((tallyLayout ["Id", "Value"]).decode false ⟨"/x.csv"⟩ (.whole shortFirstRow)).2 ∧
      Stands shortFirstRow [] (encode "a\n") (encode "b,2\nc,3\n") [] [encode "a"] ∧
      ((tallyLayout ["Id", "Value"]).decode false ⟨"/x.csv"⟩ (.whole shortFirstRow)).1 = .ok [] ∧
      ((tallyLayout ["Id", "Value"]).decode false ⟨"/x.csv"⟩ (.whole (encode "b,2\nc,3\n"))).1
        = .ok [("b", 2), ("c", 3)] :=
  ⟨tallyLayout_calm _, by decide +kernel,
    ⟨by decide +kernel, by decide +kernel, by decide +kernel,
      ⟨97, [10], by decide +kernel, by decide⟩, Or.inl (by decide +kernel)⟩,
    by decide +kernel, by decide +kernel⟩

end LedgerMatch.Csv
