import LedgerMatch.Proofs.Csv.Columns
import LedgerMatch.Proofs.Csv.RoundTrip

/-!
# Columns in any order

A table is read alike without a header, in the order of the columns of its layout, and under a header
that names them in any order and among others. Names are trimmed only in a header that is read, and a
byte order mark is dropped from its front: names that depend on neither are read alike.
-/

namespace LedgerMatch.Csv

open Text

/-! ### Fronts of written records -/

def beginsWithMark (s : String) : Bool := s.toList.head? == some '\ufeff'

/-- A written field, with a character behind it, begins with a mark only if the field does. -/
theorem head?_fieldChars {f : String} {c : Char} (hf : beginsWithMark f = false) (hc : c ≠ '\ufeff')
    (rest : List Char) : (fieldChars f.toList ++ c :: rest).head? ≠ some '\ufeff' := by
  rw [beginsWithMark, beq_eq_false_iff_ne] at hf
  rw [fieldChars]
  split
  · simp
  · cases hchars : f.toList with
    | nil => simpa using hc
    | cons d ds =>
        rw [hchars] at hf
        exact hf

/-- A written record begins with a mark only if its first field does. -/
theorem head?_recordChars {fields : List String} (h : ∀ s ∈ fields.head?, beginsWithMark s = false) :
    (recordChars fields).head? ≠ some '\ufeff' := by
  cases fields with
  | nil => decide
  | cons f rest =>
      cases rest with
      | nil => exact head?_fieldChars (h f rfl) (c := '\n') (by decide) []
      | cons g rest => exact head?_fieldChars (h f rfl) (c := ',') (by decide) _

theorem head?_flatMap_recordChars {rows : List (List String)}
    (h : ∀ row ∈ rows.head?, ∀ s ∈ row.head?, beginsWithMark s = false) :
    (rows.flatMap recordChars).head? ≠ some '\ufeff' := by
  cases rows with
  | nil => decide
  | cons row rows =>
      have hfront := head?_recordChars (h row rfl)
      rw [List.flatMap_cons, List.head?_append]
      cases hchars : (recordChars row).head? with
      | some c =>
          rw [hchars] at hfront
          exact hfront
      | none =>
          rw [List.head?_eq_none_iff] at hchars
          unfold recordChars at hchars
          split at hchars <;> simp at hchars

/-! ### Tables -/

/-- Records without a header. -/
def headless (rows : List (List String)) : String := String.ofList (rows.flatMap recordChars)

/-- A row under a header has the fields of another, each under its name, and some under additional
names. -/
structure SameFields (names extra header row row' : List String) : Prop where
  length : row.length = names.length
  length' : row'.length = header.length
  fields : ∃ pad : List String, pad.length = extra.length ∧
    (header.zip row').Perm ((names ++ extra).zip (row ++ pad))

/-- A table with its columns in another order, and with additional ones among them. -/
structure Rearranged (names extra : List String) (rows : List (List String)) (header : List String)
    (rows' : List (List String)) : Prop where
  columns : header.Perm (names ++ extra)
  cells : List.Forall₂ (SameFields names extra header) rows rows'

/-- Names that a header can hold: trimming changes none that is asked for, and makes none of them one
that is asked for. -/
def IsReadable (columns : List Column) (names : List String) : Prop :=
  ∀ name ∈ names, asksFor columns name = true ∨ asksFor columns (trim name) = true → trim name = name

variable {columns : List Column} {names extra header row row' : List String}

/-- Each name that is asked for comes once in a header, if it does among the names of the layout. -/
theorem nodup_asked (hnodup : names.Nodup) (hnames : IsReadable columns names)
    (hextra : ∀ name ∈ extra, asksFor columns (trim name) = false)
    (hheader : header.Perm (names ++ extra)) :
    ((header.map trim).filter (asksFor columns)).Nodup := by
  have hnone : (extra.map trim).filter (asksFor columns) = [] := by
    rw [List.filter_map, List.map_eq_nil_iff, List.filter_eq_nil_iff]
    intro name hname
    rw [Function.comp_apply, hextra name hname]
    decide
  have hperm := (hheader.map trim).filter (asksFor columns)
  rw [List.map_append, List.filter_append, hnone, List.append_nil] at hperm
  rw [hperm.nodup_iff, List.filter_map]
  refine (hnodup.filter _).map_on fun name hname other hother heq => ?_
  obtain ⟨hmem, hasked⟩ := List.mem_filter.1 hname
  obtain ⟨hmem', hasked'⟩ := List.mem_filter.1 hother
  rwa [hnames name hmem (Or.inr hasked), hnames other hmem' (Or.inr hasked')] at heq

/-- The same fields stand under the names that are asked for. -/
theorem SameFields.mem_iff (h : SameFields names extra header row row')
    (hnames : IsReadable columns names)
    (hextra : ∀ name ∈ extra, asksFor columns (trim name) = false) {name field : String}
    (hasked : asksFor columns name = true) :
    (name, field) ∈ names.zip (row.map trim)
      ↔ (name, field) ∈ (header.map trim).zip (row'.map trim) := by
  obtain ⟨pad, -, hperm⟩ := h.fields
  rw [List.zip_append h.length.symm] at hperm
  rw [List.zip_map, List.zip_map_right, List.mem_map, List.mem_map]
  constructor
  · rintro ⟨⟨n, f⟩, hmem, heq⟩
    obtain ⟨rfl, rfl⟩ := Prod.mk.inj heq
    have hname := hnames _ (List.of_mem_zip hmem).1 (Or.inl hasked)
    exact ⟨(n, f), hperm.mem_iff.2 (List.mem_append_left _ hmem), Prod.ext hname rfl⟩
  · rintro ⟨⟨n, f⟩, hmem, heq⟩
    obtain ⟨rfl, rfl⟩ := Prod.mk.inj heq
    rcases List.mem_append.1 (hperm.mem_iff.1 hmem) with hown | hother
    · have hname := hnames n (List.of_mem_zip hown).1 (Or.inr hasked)
      exact ⟨(n, f), hown, Prod.ext hname.symm rfl⟩
    · have hunasked := hextra n (List.of_mem_zip hother).1
      rw [hasked] at hunasked
      cases hunasked

theorem SameFields.bindRow_iff (h : SameFields names extra header row row') (hnodup : names.Nodup)
    (hnames : IsReadable columns names)
    (hextra : ∀ name ∈ extra, asksFor columns (trim name) = false)
    (hheader : header.Perm (names ++ extra)) (cells : List Cell) :
    bindRow columns names (row.map trim) = .ok cells
      ↔ bindRow columns (header.map trim) (row'.map trim) = .ok cells := by
  have hlength : names.length = (row.map trim).length := by rw [List.length_map, h.length]
  have hlength' : (header.map trim).length = (row'.map trim).length := by
    rw [List.length_map, List.length_map, h.length']
  exact bindRow_congr hlength hlength' (hnodup.filter _) (nodup_asked hnodup hnames hextra hheader)
    (fun _ _ hasked => h.mem_iff hnames hextra hasked) cells

theorem lengths_of_sameFields {rows rows' : List (List String)}
    (h : List.Forall₂ (SameFields names extra header) rows rows') :
    (∀ row ∈ rows, row.length = names.length) ∧ ∀ row' ∈ rows', row'.length = header.length := by
  induction h with
  | nil => simp
  | cons hsame hrest ih =>
      rw [List.forall_mem_cons, List.forall_mem_cons]
      exact ⟨⟨hsame.length, ih.1⟩, hsame.length', ih.2⟩

/-! ### Rows -/

variable {α : Type} {layout : RowLayout α} {rows rows' : List (List String)}

/-- Rows that are bound to the same cells have the same value, or give way alike, or are skipped
both. -/
theorem RowLayout.alike_of_bindRow
    (h : ∀ cells, bindRow layout.columns names (row.map trim) = .ok cells
      ↔ bindRow layout.columns header (row'.map trim) = .ok cells) :
    (layout.outcome names row.length (row.map encode)).Alike
      (layout.outcome header row'.length (row'.map encode)) := by
  rw [outcome_of_texts (List.length_map _) (texts?_encode row),
    outcome_of_texts (List.length_map _) (texts?_encode row')]
  cases hcells : bindRow layout.columns names (row.map trim) with
  | ok cells =>
      rw [(h cells).1 hcells]
      exact ⟨rfl, rfl⟩
  | error fault =>
      cases hcells' : bindRow layout.columns header (row'.map trim) with
      | ok cells =>
          rw [(h cells).2 hcells'] at hcells
          cases hcells
      | error fault' => exact ⟨rfl, rfl⟩

/-- Rows of a table are read alike under its headers. -/
theorem Rearranged.alike (h : Rearranged names extra rows header rows') (hnodup : names.Nodup)
    (hnames : IsReadable layout.columns names)
    (hextra : ∀ name ∈ extra, asksFor layout.columns (trim name) = false) :
    List.Forall₂ RowOutcome.Alike
      ((rows.map (·.map encode)).map (layout.outcome names names.length))
      ((rows'.map (·.map encode)).map (layout.outcome (header.map trim) header.length)) := by
  rw [List.map_map, List.map_map, List.forall₂_map_left_iff, List.forall₂_map_right_iff]
  refine h.cells.imp fun row row' hsame => ?_
  have halike := RowLayout.alike_of_bindRow
    (hsame.bindRow_iff hnodup hnames hextra h.columns)
  rwa [hsame.length, hsame.length'] at halike

/-! ### Files -/

/-- A table gives the same values, or fails alike, under a header that is read as without one. The same
rows are skipped, one line further down. -/
theorem Rearranged.decode_eq (h : Rearranged layout.canonicalHeader extra rows header rows')
    (hnodup : layout.canonicalHeader.Nodup)
    (hnames : IsReadable layout.columns layout.canonicalHeader)
    (hextra : ∀ name ∈ extra, asksFor layout.columns (trim name) = false) {content content' : Bytes}
    (hcontent : records content = rows.map (·.map encode))
    (hcontent' : records content' = (header :: rows').map (·.map encode)) (file : Path) :
    (layout.decode true file (.whole content')).1 = (layout.decode false file (.whole content)).1 ∧
      (layout.decode true file (.whole content')).2.filterMap Warning.line?
        = ((layout.decode false file (.whole content)).2.filterMap Warning.line?).map (· + 1) := by
  have hsheet : layout.sheet? false (records content)
      = some ⟨layout.canonicalHeader, firstWidth (rows.map (·.map encode)), 0⟩ := by
    rw [hcontent]
    rfl
  have hsheet' : layout.sheet? true (records content')
      = some ⟨header.map trim, header.length, 1⟩ := by
    rw [hcontent', List.map_cons, RowLayout.sheet?, texts?_encode, List.length_map]
    rfl
  have halike : List.Forall₂ RowOutcome.Alike
      ((rows.map (·.map encode)).map (layout.outcome layout.canonicalHeader
        (firstWidth (rows.map (·.map encode)))))
      ((rows'.map (·.map encode)).map (layout.outcome (header.map trim) header.length)) := by
    have hcells := h.alike hnodup hnames hextra
    cases h.cells with
    | nil => exact hcells
    | @cons row row' rest rest' hsame hrest =>
        have hwidth : firstWidth ((row :: rest).map (·.map encode)) = layout.canonicalHeader.length := by
          rw [← hsame.length]
          exact List.length_map _
        rwa [hwidth]
  unfold RowLayout.decode
  dsimp only
  rw [RowLayout.decodeRecords_of_sheet hsheet, RowLayout.decodeRecords_of_sheet hsheet', hcontent,
    hcontent', List.map_cons]
  exact RowLayout.decodeRows_alike halike file 1 1 none

/-- A table of two columns at least is read back from what is written of it, without a header and under
one. However it is written, its columns may stand in any order and among others. -/
theorem decode_any_column_order (layout : RowLayout α) {extra header : List String}
    {rows rows' : List (List String)} (hwide : 2 ≤ layout.canonicalHeader.length)
    (hnodup : layout.canonicalHeader.Nodup)
    (hnames : IsReadable layout.columns layout.canonicalHeader)
    (hextra : ∀ name ∈ extra, asksFor layout.columns (trim name) = false)
    (htable : Rearranged layout.canonicalHeader extra rows header rows')
    (hmark : ∀ row ∈ header :: rows, ∀ s ∈ row.head?, beginsWithMark s = false) (file : Path) :
    records (encode (headless rows)) = rows.map (·.map encode) ∧
      records (encode (document header rows')) = (header :: rows').map (·.map encode) ∧
      ∀ content content', records content = rows.map (·.map encode) →
        records content' = (header :: rows').map (·.map encode) →
        (layout.decode true file (.whole content')).1
            = (layout.decode false file (.whole content)).1 ∧
          (layout.decode true file (.whole content')).2.filterMap Warning.line?
            = ((layout.decode false file (.whole content)).2.filterMap Warning.line?).map (· + 1) := by
  have hheader : 2 ≤ header.length := by
    have hlength := htable.columns.length_eq
    rw [List.length_append] at hlength
    omega
  obtain ⟨hlength, hlength'⟩ := lengths_of_sameFields htable.cells
  have hrows : ∀ row ∈ rows, row ≠ [] ∧ row ≠ [""] := by
    intro row hrow
    apply not_empty_of_wide
    rw [hlength row hrow]
    exact hwide
  have hrows' : ∀ row ∈ header :: rows', row ≠ [] ∧ row ≠ [""] := by
    intro row' hrow'
    apply not_empty_of_wide
    rcases List.mem_cons.1 hrow' with rfl | hmem
    · exact hheader
    · rw [hlength' row' hmem]
      exact hheader
  refine ⟨records_written (head?_flatMap_recordChars ?_) hrows,
    records_written (head?_flatMap_recordChars ?_) hrows',
    fun content content' hcontent hcontent' =>
      htable.decode_eq hnodup hnames hextra hcontent hcontent' file⟩
  · exact fun row hrow => hmark row (List.mem_cons_of_mem _ (List.mem_of_head? hrow))
  · intro row hrow
    obtain rfl : header = row := Option.some.inj hrow
    exact hmark header List.mem_cons_self

/-- A table with a row whose number cannot be read. -/
def partTable : List (List String) := [["a", "1"], ["b,c", "x"]]

/-- The table with its columns in another order, and a third one among them. -/
def partTableWithNotes : List (List String) := [["1", "", "a"], ["x", "n", "b,c"]]

theorem partTable_any_column_order :
    (tallyLayout ["Id", "Value"]).decode false ⟨"/x.csv"⟩ (.whole (encode (headless partTable)))
        = (.ok [("a", 1)], [.undecodableRow ⟨"/x.csv"⟩ 2 (.integer 1 .invalidDigit)]) ∧
      ((tallyLayout ["Id", "Value"]).decode true ⟨"/x.csv"⟩
          (.whole (encode (document ["Value", "Note", "Id"] partTableWithNotes)))).1
        = .ok [("a", 1)] ∧
      ((tallyLayout ["Id", "Value"]).decode true ⟨"/x.csv"⟩
          (.whole (encode (document ["Value", "Note", "Id"] partTableWithNotes)))).2.filterMap
            Warning.line?
        = [3] := by
  have htable : Rearranged ["Id", "Value"] ["Note"] partTable ["Value", "Note", "Id"]
      partTableWithNotes :=
    ⟨by decide +kernel, .cons ⟨rfl, rfl, [""], rfl, by decide +kernel⟩
      (.cons ⟨rfl, rfl, ["n"], rfl, by decide +kernel⟩ .nil)⟩
  have hdecode : (tallyLayout ["Id", "Value"]).decode false ⟨"/x.csv"⟩
      (.whole (encode (headless partTable)))
      = (.ok [("a", 1)], [.undecodableRow ⟨"/x.csv"⟩ 2 (.integer 1 .invalidDigit)]) := by
    decide +kernel
  have hnames : IsReadable (tallyLayout ["Id", "Value"]).columns ["Id", "Value"] := by
    unfold IsReadable
    decide +kernel
  obtain ⟨hwithout, hunder, hall⟩ := decode_any_column_order (tallyLayout ["Id", "Value"])
    (by decide) (by decide +kernel) hnames (by decide +kernel) htable (by decide +kernel) ⟨"/x.csv"⟩
  obtain ⟨hvalues, hlines⟩ := hall _ _ hwithout hunder
  rw [hdecode] at hvalues hlines
  exact ⟨hdecode, hvalues, hlines⟩

/-- Trimmed names that are asked for, and a mark in front of a name, make a difference. -/
theorem untrimmed_names_differ :
    (Rearranged ["Id", "Value"] [" Id"] [["a", "1"]] [" Id", "Id", "Value"] [["x", "a", "1"]] ∧
        (tallyLayout ["Id", "Value"]).decode false ⟨"/x.csv"⟩
            (.whole (encode (headless [["a", "1"]])))
          = (.ok [("a", 1)], []) ∧
        (tallyLayout ["Id", "Value"]).decode true ⟨"/x.csv"⟩
            (.whole (encode (document [" Id", "Id", "Value"] [["x", "a", "1"]])))
          = (.ok [], [.undecodableRow ⟨"/x.csv"⟩ 2 (.duplicateField "Id")])) ∧
      (Rearranged [" Id", "Value"] [] [["a", "1"]] [" Id", "Value"] [["a", "1"]] ∧
        (tallyLayout [" Id", "Value"]).decode false ⟨"/x.csv"⟩
            (.whole (encode (headless [["a", "1"]])))
          = (.ok [], [.undecodableRow ⟨"/x.csv"⟩ 1 (.missingField "Id")]) ∧
        (tallyLayout [" Id", "Value"]).decode true ⟨"/x.csv"⟩
            (.whole (encode (document [" Id", "Value"] [["a", "1"]])))
          = (.ok [("a", 1)], [])) ∧
      Rearranged ["\ufeffId", "Value"] [] [["a", "1"]] ["\ufeffId", "Value"] [["a", "1"]] ∧
        (tallyLayout ["\ufeffId", "Value"]).decode false ⟨"/x.csv"⟩
            (.whole (encode (headless [["a", "1"]])))
          = (.ok [], [.undecodableRow ⟨"/x.csv"⟩ 1 (.missingField "Id")]) ∧
        (tallyLayout ["\ufeffId", "Value"]).decode true ⟨"/x.csv"⟩
            (.whole (encode (document ["\ufeffId", "Value"] [["a", "1"]])))
          = (.ok [("a", 1)], []) :=
  ⟨⟨⟨by decide +kernel, .cons ⟨rfl, rfl, ["x"], rfl, by decide +kernel⟩ .nil⟩,
      by decide +kernel, by decide +kernel⟩,
    ⟨⟨by decide +kernel, .cons ⟨rfl, rfl, [], rfl, by decide +kernel⟩ .nil⟩,
      by decide +kernel, by decide +kernel⟩,
    ⟨by decide +kernel, .cons ⟨rfl, rfl, [], rfl, by decide +kernel⟩ .nil⟩,
    by decide +kernel, by decide +kernel⟩

end LedgerMatch.Csv
