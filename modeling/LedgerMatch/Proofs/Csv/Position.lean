import LedgerMatch.Csv.Record
import Mathlib.Data.List.Basic

/-!
# Where records stand in a file

Each record of a file has a part of the content of its own: what is in front of it holds the records
before it, what is behind it holds those behind, and both read the same without it. A step of the
reader passes over the end of a blank line, closes a record, or goes on in one.
-/

namespace LedgerMatch.Csv

open Text

namespace Cutter

/-! ### Steps -/

theorem isComma_of_isLineEnd {b : UInt8} (h : isLineEnd b = true) : isComma b = false := by
  rw [isLineEnd, Bool.or_eq_true, beq_iff_eq, beq_iff_eq] at h
  rcases h with rfl | rfl <;> rfl

theorem isQuote_of_isLineEnd {b : UInt8} (h : isLineEnd b = true) : isQuote b = false := by
  rw [isLineEnd, Bool.or_eq_true, beq_iff_eq, beq_iff_eq] at h
  rcases h with rfl | rfl <;> rfl

/-- What a step can do. -/
inductive StepKind (s : Cutter) (b : UInt8) : Prop where
  | blank (between : s.place = .recordStart) (ends : isLineEnd b = true) (same : s.step b = s)
  | close (begun : s.place ≠ .recordStart) (outside : s.place ≠ .quoted) (ends : isLineEnd b = true)
      (closed : s.step b = s.endRecord)
  | quote (inside : s.place = .quoted) (ends : isLineEnd b = true) (kept : s.step b = s.push .quoted b)
  | go (ends : isLineEnd b = false) (begun : (s.step b).place ≠ .recordStart)
      (same : (s.step b).records = s.records)

theorem stepKind (s : Cutter) (b : UInt8) : StepKind s b := by
  cases hend : isLineEnd b with
  | true =>
      have hcomma := isComma_of_isLineEnd hend
      have hquote := isQuote_of_isLineEnd hend
      cases hplace : s.place with
      | recordStart => exact .blank hplace hend (by simp [step, hplace, hend])
      | quoted => exact .quote hplace hend (by simp [step, hplace, hquote])
      | fieldStart =>
          exact .close (by simp [hplace]) (by simp [hplace]) hend
            (by simp [step, hplace, stepFirst, stepBare, hend, hcomma, hquote])
      | bare =>
          exact .close (by simp [hplace]) (by simp [hplace]) hend
            (by simp [step, hplace, stepBare, hend, hcomma])
      | quoteSeen =>
          exact .close (by simp [hplace]) (by simp [hplace]) hend
            (by simp [step, hplace, stepBare, hend, hcomma, hquote])
  | false =>
      have hbare : (s.stepBare b).place ≠ .recordStart ∧ (s.stepBare b).records = s.records := by
        rw [stepBare, hend]
        cases isComma b <;> simp [endField, push]
      have hfirst : (s.stepFirst b).place ≠ .recordStart ∧ (s.stepFirst b).records = s.records := by
        rw [stepFirst]
        split
        · simp
        · exact hbare
      have hstep : (s.step b).place ≠ .recordStart ∧ (s.step b).records = s.records := by
        cases hplace : s.place with
        | recordStart =>
            rw [step, hplace, hend]
            exact hfirst
        | fieldStart =>
            rw [step, hplace]
            exact hfirst
        | bare =>
            rw [step, hplace]
            exact hbare
        | quoted =>
            rw [step, hplace]
            cases isQuote b <;> simp [push]
        | quoteSeen =>
            rw [step, hplace]
            cases isQuote b
            · exact hbare
            · simp [push]
      exact .go hend hstep.1 hstep.2

/-! ### Records read earlier -/

/-- The state with records that were read earlier. -/
def after (s : Cutter) (earlier : List RawRecord) : Cutter :=
  { s with records := s.records ++ earlier }

/-- Records read earlier change nothing about a step. -/
theorem step_after (s : Cutter) (earlier : List RawRecord) (b : UInt8) :
    (s.after earlier).step b = (s.step b).after earlier := by
  have hbare : (s.after earlier).stepBare b = (s.stepBare b).after earlier := by
    unfold stepBare
    split
    · rfl
    · split <;> rfl
  have hfirst : (s.after earlier).stepFirst b = (s.stepFirst b).after earlier := by
    unfold stepFirst
    split
    · rfl
    · exact hbare
  have hplace : (s.after earlier).place = s.place := rfl
  unfold step
  rw [hplace]
  cases s.place with
  | recordStart =>
      dsimp only
      split
      · rfl
      · exact hfirst
  | fieldStart => exact hfirst
  | bare => exact hbare
  | quoted =>
      dsimp only
      split <;> rfl
  | quoteSeen =>
      dsimp only
      split
      · rfl
      · exact hbare

theorem foldl_step_after (s : Cutter) (earlier : List RawRecord) (bs : Bytes) :
    bs.foldl step (s.after earlier) = (bs.foldl step s).after earlier := by
  induction bs generalizing s with
  | nil => rfl
  | cons b bs ih => rw [List.foldl_cons, List.foldl_cons, step_after, ih]

theorem finish_after (s : Cutter) (earlier : List RawRecord) :
    (s.after earlier).finish = s.finish.after earlier := by
  unfold finish
  have hplace : (s.after earlier).place = s.place := rfl
  rw [hplace]
  split <;> rfl

end Cutter

/-! ### Records of a part -/

/-- The records of a part of a file that begins between two records and ends with the file. -/
def recordsIn (bs : Bytes) : List RawRecord := (bs.foldl Cutter.step {}).finish.records.reverse

theorem records_eq (content : Bytes) : records content = recordsIn (dropMark content) := rfl

/-- Behind a part that holds whole records, the rest is read as if it stood alone. -/
theorem recordsIn_append {front : Bytes} (before : List RawRecord)
    (h : front.foldl Cutter.step {} = { records := before.reverse }) (rest : Bytes) :
    recordsIn (front ++ rest) = before ++ recordsIn rest := by
  have hstart : ({ records := before.reverse } : Cutter) = ({} : Cutter).after before.reverse := rfl
  rw [recordsIn, List.foldl_append, h, hstart, Cutter.foldl_step_after, Cutter.finish_after]
  show (_ ++ before.reverse).reverse = _
  rw [List.reverse_append, List.reverse_reverse]
  rfl

/-- A part of a file that holds one record: its first byte ends no line, and the record ends with its
line, or with the file. -/
structure HoldsRecord (own behind : Bytes) (r : RawRecord) : Prop where
  begins : ∃ b rest, own = b :: rest ∧ Cutter.isLineEnd b = false
  reads : own.foldl Cutter.step {} = { records := [r] } ∨ behind = [] ∧ recordsIn own = [r]

theorem HoldsRecord.recordsIn_append {own behind : Bytes} {r : RawRecord}
    (h : HoldsRecord own behind r) : recordsIn (own ++ behind) = r :: recordsIn behind := by
  rcases h.reads with hline | ⟨rfl, hfile⟩
  · exact Csv.recordsIn_append [r] hline behind
  · rw [List.append_nil, hfile]
    rfl

/-- A record that has begun ends, with its line or with the file. -/
theorem exists_end {s : Cutter} (h : s.place ≠ .recordStart) (bs : Bytes) :
    ∃ own behind r, bs = own ++ behind ∧
      (own.foldl Cutter.step s = { records := r :: s.records } ∨
        behind = [] ∧ (own.foldl Cutter.step s).finish.records = r :: s.records) := by
  induction bs generalizing s with
  | nil =>
      refine ⟨[], [], (s.field.reverse :: s.fields).reverse, rfl, Or.inr ⟨rfl, ?_⟩⟩
      rw [List.foldl_nil, Cutter.finish, if_neg h]
      rfl
  | cons b bs ih =>
      have hgo : ∀ t : Cutter, s.step b = t → t.place ≠ .recordStart → t.records = s.records →
          ∃ own behind r, b :: bs = own ++ behind ∧
            (own.foldl Cutter.step s = { records := r :: s.records } ∨
              behind = [] ∧ (own.foldl Cutter.step s).finish.records = r :: s.records) := by
        rintro t rfl hplace hrecords
        obtain ⟨own, behind, r, hbs, hreads⟩ := ih hplace
        rw [hrecords] at hreads
        exact ⟨b :: own, behind, r, by rw [hbs]; rfl, hreads⟩
      cases s.stepKind b with
      | blank between _ _ => exact (h between).elim
      | close _ _ _ closed => exact ⟨[b], bs, _, rfl, Or.inl closed⟩
      | quote _ _ kept => exact hgo _ kept (by simp [Cutter.push]) rfl
      | go _ begun same => exact hgo _ rfl begun same

/-- A part of a file holds no record, or a first one behind blank lines. -/
theorem exists_first (bs : Bytes) :
    recordsIn bs = [] ∨ ∃ blanks own behind r, bs = blanks ++ own ++ behind ∧
      blanks.foldl Cutter.step {} = {} ∧ HoldsRecord own behind r := by
  induction bs with
  | nil => exact Or.inl rfl
  | cons b bs ih =>
      have hgo : Cutter.isLineEnd b = false → (Cutter.step {} b).place ≠ .recordStart →
          (Cutter.step {} b).records = [] →
          ∃ blanks own behind r, b :: bs = blanks ++ own ++ behind ∧
            blanks.foldl Cutter.step {} = {} ∧ HoldsRecord own behind r := by
        intro hend hplace hrecords
        obtain ⟨own, behind, r, rfl, hreads⟩ := exists_end hplace bs
        rw [hrecords] at hreads
        refine ⟨[], b :: own, behind, r, rfl, rfl, ⟨b, own, rfl, hend⟩, ?_⟩
        refine hreads.imp_right (And.imp_right fun hfile => ?_)
        rw [recordsIn, List.foldl_cons, hfile]
        rfl
      cases Cutter.stepKind {} b with
      | blank _ _ same =>
          have hskip : recordsIn (b :: bs) = recordsIn bs := by rw [recordsIn, List.foldl_cons, same]; rfl
          rw [hskip]
          refine ih.imp_right ?_
          rintro ⟨blanks, own, behind, r, rfl, hblanks, hholds⟩
          refine ⟨b :: blanks, own, behind, r, rfl, ?_, hholds⟩
          rw [List.foldl_cons, same, hblanks]
      | close begun _ _ _ => exact (begun rfl).elim
      | quote inside _ _ => cases inside
      | go ends begun same => exact Or.inr (hgo ends begun same)

/-- Each record of a part has a part of its own, behind the records before it. -/
theorem exists_holdsRecord {bs : Bytes} {i : Nat} {r : RawRecord} (h : (recordsIn bs)[i]? = some r) :
    ∃ front own behind, bs = front ++ own ++ behind ∧
      front.foldl Cutter.step {} = { records := ((recordsIn bs).take i).reverse } ∧
      HoldsRecord own behind r := by
  induction i generalizing bs with
  | zero =>
      rcases exists_first bs with hnone | ⟨blanks, own, behind, first, rfl, hblanks, hholds⟩
      · rw [hnone] at h
        cases h
      · rw [List.append_assoc, recordsIn_append [] hblanks, hholds.recordsIn_append] at h
        cases h
        exact ⟨blanks, own, behind, rfl, hblanks, hholds⟩
  | succ i ih =>
      rcases exists_first bs with hnone | ⟨blanks, own, behind, first, rfl, hblanks, hholds⟩
      · rw [hnone] at h
        cases h
      · have hrecords : recordsIn (blanks ++ own ++ behind) = first :: recordsIn behind := by
          rw [List.append_assoc, recordsIn_append [] hblanks, hholds.recordsIn_append]
          rfl
        rw [hrecords] at h ⊢
        rcases hholds.reads with hline | ⟨rfl, -⟩
        · obtain ⟨front, own', behind', hbehind, hfront, hholds'⟩ := ih (show (recordsIn behind)[i]? = some r from h)
          refine ⟨blanks ++ own ++ front, own', behind', ?_, ?_, hholds'⟩
          · rw [hbehind]
            simp only [List.append_assoc]
          · have hstart : ({ records := [first] } : Cutter) = ({} : Cutter).after [first] := rfl
            rw [List.foldl_append, List.foldl_append, hblanks, hline, hstart,
              Cutter.foldl_step_after, hfront, List.take_succ_cons, List.reverse_cons]
            rfl
        · cases h

/-! ### Records of a file -/

/-- A record of a file stands in a part of the content, behind the records before it. A byte order
mark belongs to what is in front of the first record. -/
structure Stands (content front own behind : Bytes) (before : List RawRecord) (r : RawRecord) :
    Prop where
  parts : content = front ++ own ++ behind
  unmarked : dropMark content = dropMark front ++ own ++ behind
  front_reads : cut front = { records := before.reverse }
  holds : HoldsRecord own behind r

theorem dropMark_cases (content : Bytes) :
    dropMark content = content ∨ content = 0xEF :: 0xBB :: 0xBF :: dropMark content := by
  unfold dropMark
  split
  · exact Or.inr rfl
  · exact Or.inl rfl

/-- What is in front of a file without a mark has none either. -/
theorem dropMark_of_append {front rest : Bytes} (h : dropMark (front ++ rest) = front ++ rest) :
    dropMark front = front := by
  rcases dropMark_cases front with hnone | hmark
  · exact hnone
  · rw [hmark] at h
    have hlength := congrArg List.length h
    simp [dropMark] at hlength
    omega

/-- Behind whole records, or behind blank lines, a mark is not looked for. -/
theorem dropMark_append {front : Bytes} (hne : front ≠ []) (h : (cut front).place = .recordStart)
    (rest : Bytes) : dropMark (front ++ rest) = dropMark front ++ rest := by
  match front with
  | [] => exact (hne rfl).elim
  | [a] =>
      have ha : a ≠ 0xEF := by
        rintro rfl
        exact absurd h (by decide)
      simp [dropMark, ha]
  | [a, b] =>
      have hab : ¬ (a = 0xEF ∧ b = 0xBB) := by
        rintro ⟨rfl, rfl⟩
        exact absurd h (by decide)
      have hnone : ∀ tail : Bytes, dropMark (a :: b :: tail) = a :: b :: tail := by
        intro tail
        unfold dropMark
        split
        · next heq => simp_all
        · rfl
      rw [hnone []]
      exact hnone rest
  | a :: b :: c :: front =>
      by_cases hmark : a = 0xEF ∧ b = 0xBB ∧ c = 0xBF
      · obtain ⟨rfl, rfl, rfl⟩ := hmark
        rfl
      · unfold dropMark
        split
        · next heq => simp_all
        · split
          · next heq => simp_all
          · rfl

/-- Every record of a file stands somewhere. -/
theorem exists_stands {content : Bytes} {i : Nat} {r : RawRecord} (h : (records content)[i]? = some r) :
    ∃ front own behind, Stands content front own behind ((records content).take i) r := by
  rw [records_eq] at h ⊢
  obtain ⟨front, own, behind, hparts, hfront, hholds⟩ := exists_holdsRecord h
  rcases dropMark_cases content with hnone | hmark
  · have hcontent : content = front ++ own ++ behind := hnone.symm.trans hparts
    have hfrontMark : dropMark front = front := by
      have hall : dropMark (front ++ (own ++ behind)) = front ++ (own ++ behind) := by
        rw [← List.append_assoc, ← hcontent, hnone]
      exact dropMark_of_append hall
    refine ⟨front, own, behind, hcontent, ?_, ?_, hholds⟩
    · rw [hfrontMark, hparts]
    · rw [cut, hfrontMark]
      exact hfront
  · refine ⟨0xEF :: 0xBB :: 0xBF :: front, own, behind, ?_, hparts, hfront, hholds⟩
    rw [hmark, hparts]
    rfl

namespace Stands

variable {content front own behind : Bytes} {before : List RawRecord} {r : RawRecord}

theorem records_eq (h : Stands content front own behind before r) :
    records content = before ++ r :: recordsIn behind := by
  rw [Csv.records_eq, h.unmarked, List.append_assoc, recordsIn_append before h.front_reads,
    h.holds.recordsIn_append]

/-- Without the part of a record, a file holds the other records. A mark that stood behind the first
record would be in front of the file then. -/
theorem records_without (h : Stands content front own behind before r)
    (hmark : front ≠ [] ∨ dropMark behind = behind) :
    records (front ++ behind) = before ++ recordsIn behind := by
  have hunmarked : dropMark (front ++ behind) = dropMark front ++ behind := by
    by_cases hfront : front = []
    · subst hfront
      exact hmark.resolve_left fun hne => hne rfl
    · exact dropMark_append hfront (by rw [h.front_reads]) behind
  rw [Csv.records_eq, hunmarked, recordsIn_append before h.front_reads]

theorem front_ne (h : Stands content front own behind before r) (hbefore : before ≠ []) :
    front ≠ [] := by
  rintro rfl
  have hnone := congrArg Cutter.records h.front_reads
  exact hbefore (List.reverse_eq_nil_iff.1 hnone.symm)

end Stands

end LedgerMatch.Csv
