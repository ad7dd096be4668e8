import LedgerMatch.Csv.Writer
import LedgerMatch.Proofs.Csv.Decoder
import LedgerMatch.Proofs.Text.Bytes

/-!
# Records are read back as written

Whatever characters a field holds, the reader cuts the written document into the fields that went
into it. A record must not look like an empty line, which the reader passes over. A layout that makes
a value of each row then makes these values of the file, in their order and without a warning.
-/

namespace LedgerMatch.Csv

open Text

/-! ### Bytes of a field -/

/-- A character other than a quote has no byte of a quote. -/
theorem isQuote_of_mem {b : UInt8} {c : Char} (hc : c ≠ '"') (h : b ∈ String.utf8EncodeChar c) :
    Cutter.isQuote b = false :=
  beq_false_of_ne (ne_of_mem_utf8EncodeChar h (d := '"') (by decide) hc)

/-- A character that needs no quotes has no byte that means anything to the reader. -/
theorem ordinary_of_mem {b : UInt8} {c : Char} (hc : needsQuotes c = false)
    (h : b ∈ String.utf8EncodeChar c) :
    Cutter.isQuote b = false ∧ Cutter.isComma b = false ∧ Cutter.isLineEnd b = false := by
  simp only [needsQuotes, Bool.or_eq_false_iff, beq_eq_false_iff_ne] at hc
  obtain ⟨⟨⟨hcomma, hquote⟩, hreturn⟩, hfeed⟩ := hc
  refine ⟨isQuote_of_mem hquote h, ?_, ?_⟩
  · exact beq_false_of_ne (ne_of_mem_utf8EncodeChar h (d := ',') (by decide) hcomma)
  · rw [Cutter.isLineEnd, Bool.or_eq_false_iff]
    exact ⟨beq_false_of_ne (ne_of_mem_utf8EncodeChar h (d := '\n') (by decide) hfeed),
      beq_false_of_ne (ne_of_mem_utf8EncodeChar h (d := '\r') (by decide) hreturn)⟩

namespace Cutter

variable {s : Cutter}

/-! ### Steps -/

/-- The state after characters. -/
def feed (s : Cutter) (cs : List Char) : Cutter := (encodeChars cs).foldl step s

@[simp] theorem feed_nil (s : Cutter) : s.feed [] = s := rfl

theorem feed_append (s : Cutter) (cs ds : List Char) : s.feed (cs ++ ds) = (s.feed cs).feed ds := by
  rw [feed, encodeChars_append, List.foldl_append]
  rfl

theorem feed_cons (s : Cutter) (c : Char) (cs : List Char) :
    s.feed (c :: cs) = (s.feed [c]).feed cs :=
  s.feed_append [c] cs

/-- Outside quotes a comma ends the field. -/
theorem feed_comma (hs : s.place ≠ .quoted) : s.feed [','] = s.endField := by
  show s.step 44 = s.endField
  cases hplace : s.place with
  | quoted => exact (hs hplace).elim
  | _ => simp [step, hplace, stepFirst, stepBare, isComma, isQuote, isLineEnd]

/-- Outside quotes a line feed ends the record, if the record has begun. -/
theorem feed_lineFeed (hs : s.place ≠ .quoted) (hbegun : s.place ≠ .recordStart) :
    s.feed ['\n'] = s.endRecord := by
  show s.step 10 = s.endRecord
  cases hplace : s.place with
  | quoted => exact (hs hplace).elim
  | recordStart => exact (hbegun hplace).elim
  | _ => simp [step, hplace, stepFirst, stepBare, isComma, isQuote, isLineEnd]

/-- Inside quotes a quote written twice stands for one. -/
theorem feed_doubledQuote (hs : s.place = .quoted) :
    s.feed ['"', '"'] = s.push .quoted 34 := by
  show (s.step 34).step 34 = _
  simp [step, hs, isQuote, push]

/-- Inside quotes a single quote closes them. -/
theorem feed_quote_of_quoted (hs : s.place = .quoted) :
    s.feed ['"'] = { s with place := .quoteSeen } := by
  show s.step 34 = _
  simp [step, hs, isQuote]

/-- Inside quotes a byte other than a quote is kept. -/
theorem step_quoted {b : UInt8} (hb : isQuote b = false) (hs : s.place = .quoted) :
    s.step b = s.push .quoted b := by
  simp [step, hs, hb]

/-- In a bare field a byte is kept that ends nothing. -/
theorem step_bare {b : UInt8} (hcomma : isComma b = false) (hend : isLineEnd b = false)
    (hs : s.place = .bare) : s.step b = s.push .bare b := by
  simp [step, hs, stepBare, hcomma, hend]

/-- Bytes that are kept one by one are kept together. -/
theorem foldl_step_of_push {place : Place} {bs : Bytes}
    (hbs : ∀ b ∈ bs, ∀ u : Cutter, u.place = place → u.step b = u.push place b)
    (hs : s.place = place) : bs.foldl step s = { s with field := bs.reverse ++ s.field } := by
  induction bs generalizing s with
  | nil => rfl
  | cons b bs ih =>
      rw [List.foldl_cons, hbs b List.mem_cons_self s hs,
        ih (fun c hc => hbs c (List.mem_cons_of_mem b hc)) rfl, push]
      simp [hs]

/-! ### Fields -/

/-- Between quotes the characters of a field are kept, whatever they are. -/
theorem feed_doubleQuotes (cs : List Char) (hs : s.place = .quoted) :
    s.feed (doubleQuotes cs) = { s with field := (encodeChars cs).reverse ++ s.field } := by
  induction cs generalizing s with
  | nil => rfl
  | cons c cs ih =>
      have hchar : s.feed (if c = '"' then ['"', '"'] else [c])
          = { s with field := (String.utf8EncodeChar c).reverse ++ s.field } := by
        by_cases hc : c = '"'
        · rw [if_pos hc, feed_doubledQuote hs, push, hc, ← hs]
          rfl
        · rw [if_neg hc, feed, encodeChars_cons, encodeChars_nil, List.append_nil]
          exact foldl_step_of_push (fun b hb _ hu => step_quoted (isQuote_of_mem hc hb) hu) hs
      have hrest := ih (s := { s with field := (String.utf8EncodeChar c).reverse ++ s.field }) hs
      rw [doubleQuotes] at hrest ⊢
      rw [List.flatMap_cons, feed_append, hchar, hrest, encodeChars_cons, List.reverse_append,
        List.append_assoc]

/-- No byte of the field was read. -/
structure AtField (s : Cutter) : Prop where
  field : s.field = []
  place : s.place = .recordStart ∨ s.place = .fieldStart

/-- The first byte of a field is taken as one of a bare field, unless it is a quote. -/
theorem step_first (hs : s.AtField) {b : UInt8} (hquote : isQuote b = false)
    (hend : isLineEnd b = false) : s.step b = s.stepBare b := by
  rcases hs.place with hplace | hplace <;> simp [step, hplace, stepFirst, hquote, hend]

/-- A field that needs no quotes is kept as it is. -/
theorem feed_bare (hs : s.AtField) {cs : List Char} (hne : cs ≠ [])
    (hcs : ∀ c ∈ cs, needsQuotes c = false) :
    s.feed cs = { s with field := (encodeChars cs).reverse, place := .bare } := by
  have hbytes : ∀ b ∈ encodeChars cs,
      isQuote b = false ∧ isComma b = false ∧ isLineEnd b = false := by
    intro b hb
    obtain ⟨c, hc, hmem⟩ := List.mem_flatMap.1 hb
    exact ordinary_of_mem (hcs c hc) hmem
  rw [feed]
  cases hencoded : encodeChars cs with
  | nil => exact (hne (encodeChars_eq_nil.1 hencoded)).elim
  | cons b bs =>
      rw [hencoded] at hbytes
      obtain ⟨hquote, hcomma, hend⟩ := hbytes b List.mem_cons_self
      have hstep : s.step b = s.push .bare b := by
        rw [step_first hs hquote hend, stepBare, hcomma, hend]
        rfl
      have hkept : ∀ c ∈ bs, ∀ u : Cutter, u.place = .bare → u.step c = u.push .bare c := by
        intro c hc u hu
        obtain ⟨-, hcomma, hend⟩ := hbytes c (List.mem_cons_of_mem b hc)
        exact step_bare hcomma hend hu
      rw [List.foldl_cons, hstep, foldl_step_of_push hkept rfl, push, hs.field, List.reverse_cons]

theorem feed_quote (hs : s.AtField) : s.feed ['"'] = { s with place := .quoted } := by
  show s.step 34 = _
  rcases hs.place with hplace | hplace <;> simp [step, hplace, stepFirst, isQuote, isLineEnd]

/-- A written field is read as its characters. It ends outside quotes, and at the start of the record
only if the record has nothing so far. -/
theorem feed_fieldChars (hs : s.AtField) (cs : List Char) :
    ∃ place, s.feed (fieldChars cs) = { s with field := (encodeChars cs).reverse, place } ∧
      place ≠ .quoted ∧ (place = .recordStart → s.place = .recordStart ∧ cs = []) := by
  by_cases hquotes : cs.any needsQuotes = true
  · refine ⟨.quoteSeen, ?_, by decide, by rintro ⟨⟩⟩
    rw [fieldChars, if_pos hquotes, List.cons_append, feed_cons, feed_append, feed_quote hs,
      feed_doubleQuotes cs rfl, feed_quote_of_quoted rfl, hs.field, List.append_nil]
  · rw [fieldChars, if_neg hquotes]
    by_cases hne : cs = []
    · refine ⟨s.place, ?_, ?_, fun hstart => ⟨hstart, hne⟩⟩
      · rw [hne, feed_nil, encodeChars_nil, List.reverse_nil, ← hs.field]
      · rcases hs.place with hplace | hplace <;> simp [hplace]
    · refine ⟨.bare, feed_bare hs hne fun c hc => ?_, by decide, by rintro ⟨⟩⟩
      rw [← Bool.not_eq_true]
      exact fun hneeds => hquotes (List.any_eq_true.2 ⟨c, hc, hneeds⟩)

/-! ### Records -/

/-- A field with a comma behind it is the next field of the record. -/
theorem feed_field_comma (hs : s.AtField) (f : String) :
    s.feed (fieldChars f.toList ++ [',']) =
      { s with fields := encode f :: s.fields, field := [], place := .fieldStart } := by
  obtain ⟨place, hfield, hplace, -⟩ := feed_fieldChars hs f.toList
  rw [feed_append, hfield, feed_comma hplace, endField, encode_eq_encodeChars, List.reverse_reverse]

/-- A field with a line feed behind it is the last field of the record. -/
theorem feed_field_lineFeed (hs : s.AtField) {f : String}
    (hline : s.place = .recordStart → f ≠ "") :
    s.feed (fieldChars f.toList ++ ['\n']) =
      { records := (s.fields.reverse ++ [encode f]) :: s.records } := by
  obtain ⟨place, hfield, hplace, hstart⟩ := feed_fieldChars hs f.toList
  have hbegun : place ≠ .recordStart := by
    intro heq
    obtain ⟨hrecord, hempty⟩ := hstart heq
    exact hline hrecord (String.toList_eq_nil_iff.1 hempty)
  rw [feed_append, hfield, feed_lineFeed hplace hbegun, endRecord, encode_eq_encodeChars,
    List.reverse_reverse, List.reverse_cons]

/-- A written record is read as its fields, unless it looks like an empty line. -/
theorem feed_recordChars (hs : s.AtField) {fields : List String} (hne : fields ≠ [])
    (hline : s.place = .recordStart → fields ≠ [""]) :
    s.feed (recordChars fields)
      = { records := (s.fields.reverse ++ fields.map encode) :: s.records } := by
  induction fields generalizing s with
  | nil => exact (hne rfl).elim
  | cons f rest ih =>
      cases rest with
      | nil => exact feed_field_lineFeed hs fun hstart heq => hline hstart (by rw [heq])
      | cons g rest =>
          have hfront : recordChars (f :: g :: rest)
              = (fieldChars f.toList ++ [',']) ++ recordChars (g :: rest) := by
            rw [recordChars, List.append_assoc, List.singleton_append]
          rw [hfront, feed_append, feed_field_comma hs,
            ih ⟨rfl, Or.inr rfl⟩ (by simp) (by rintro ⟨⟩), List.reverse_cons, List.append_assoc,
            List.singleton_append, ← List.map_cons]

/-- Written records are read one after the other. -/
theorem feed_records {rows : List (List String)} (h : ∀ row ∈ rows, row ≠ [] ∧ row ≠ [""])
    (found : List RawRecord) :
    ({ records := found } : Cutter).feed (rows.flatMap recordChars)
      = { records := (rows.map (·.map encode)).reverse ++ found } := by
  induction rows generalizing found with
  | nil => rfl
  | cons row rows ih =>
      obtain ⟨hne, hline⟩ := h row List.mem_cons_self
      rw [List.flatMap_cons, feed_append, feed_recordChars ⟨rfl, Or.inl rfl⟩ hne fun _ => hline]
      refine (ih (fun r hr => h r (List.mem_cons_of_mem row hr)) _).trans ?_
      simp

end Cutter

/-- A record of two fields at least does not look like an empty line. -/
theorem not_empty_of_wide {row : List String} (h : 2 ≤ row.length) : row ≠ [] ∧ row ≠ [""] := by
  constructor <;>
  · rintro rfl
    simp at h

/-- Written records are read back from their characters, if these do not begin with a byte order
mark. -/
theorem records_written {rows : List (List String)}
    (hmark : (rows.flatMap recordChars).head? ≠ some '\ufeff')
    (h : ∀ row ∈ rows, row ≠ [] ∧ row ≠ [""]) :
    records (encode (String.ofList (rows.flatMap recordChars))) = rows.map (·.map encode) := by
  have hcut : cut (encode (String.ofList (rows.flatMap recordChars)))
      = { records := (rows.map (·.map encode)).reverse } := by
    rw [cut, encode_ofList, dropMark_encodeChars hmark]
    exact (Cutter.feed_records h []).trans (by rw [List.append_nil])
  rw [records, hcut, Cutter.finish, if_pos rfl, List.reverse_reverse]

/-! ### Files -/

/-- The fields of a written record are texts, which are trimmed. -/
theorem texts?_encode (row : List String) : texts? (row.map encode) = some (row.map trim) := by
  induction row with
  | nil => rfl
  | cons s row ih =>
      rw [texts?] at ih ⊢
      rw [List.map_cons, List.mapM_cons, ih, decode?_encode]
      rfl

/-- A header that is read as it was written. -/
structure IsHeader (header : List String) : Prop where
  begins : ∃ c cs, recordChars header = c :: cs ∧ c.toNat < 128
  trimmed : header.map trim = header
  wide : 2 ≤ header.length

variable {α : Type} {layout : RowLayout α} {header row : List String} {value : α}

/-- A row under a header of which a layout makes a value. -/
structure RowLayout.Keeps (layout : RowLayout α) (header row : List String) (value : α) : Prop where
  length : row.length = header.length
  converted : ∃ cells, bindRow layout.columns header (row.map trim) = .ok cells ∧
    layout.convert cells = .keep value

theorem RowLayout.Keeps.outcome (h : layout.Keeps header row value) :
    layout.outcome header header.length (row.map encode) = .kept value := by
  obtain ⟨cells, hcells, hvalue⟩ := h.converted
  rw [RowLayout.outcome, if_neg (by simp [h.length]), texts?_encode]
  dsimp only
  rw [hcells]
  dsimp only
  rw [hvalue]

/-- Rows that are all kept are read without a warning. -/
theorem RowLayout.decodeRows_kept (file : Path) (line width : Nat) {records : List RawRecord}
    {values : List α}
    (h : records.map (layout.outcome header width) = values.map RowOutcome.kept) :
    layout.decodeRows file line header width records none = (.ok values, []) := by
  have hkept : ∀ raw ∈ records, ∃ value, layout.outcome header width raw = .kept value := by
    intro raw hraw
    have hmem := h ▸ List.mem_map_of_mem (f := layout.outcome header width) hraw
    obtain ⟨value, -, hvalue⟩ := List.mem_map.1 hmem
    exact ⟨value, hvalue.symm⟩
  have hcalm : ∀ raw ∈ records, (layout.outcome header width raw).crashed? = none := by
    intro raw hraw
    obtain ⟨value, hvalue⟩ := hkept raw hraw
    rw [hvalue]
    rfl
  have hvalues : layout.values header width records = values := by
    rw [RowLayout.values, ← Function.comp_def RowOutcome.kept?, ← List.filterMap_map, h,
      List.filterMap_map]
    exact List.filterMap_some
  have hwarnings : layout.warnings file line header width records = [] := by
    refine List.filterMap_eq_nil_iff.2 fun r hr => ?_
    obtain ⟨value, hvalue⟩ := hkept r.1 (List.fst_mem_of_mem_zipIdx hr)
    rw [hvalue]
    rfl
  rw [decodeRows_of_calm hcalm, hvalues, hwarnings]
  rfl

/-- A document is read as the values of its rows, if the layout makes a value of each. -/
theorem RowLayout.decode_document {ρ : Type} {rows : List ρ} {texts : ρ → List String}
    {value : ρ → α} (hheader : IsHeader header)
    (h : ∀ r ∈ rows, layout.Keeps header (texts r) (value r)) (file : Path) :
    layout.decode true file (.whole (encode (document header (rows.map texts))))
      = (.ok (rows.map value), []) := by
  have hrecord : ∀ row ∈ header :: rows.map texts, row ≠ [] ∧ row ≠ [""] := by
    intro row hrow
    apply not_empty_of_wide
    rcases List.mem_cons.1 hrow with rfl | hmem
    · exact hheader.wide
    · obtain ⟨r, hr, rfl⟩ := List.mem_map.1 hmem
      rw [(h r hr).length]
      exact hheader.wide
  have houtcomes : ((rows.map texts).map (·.map encode)).map (layout.outcome header header.length)
      = (rows.map value).map RowOutcome.kept := by
    rw [List.map_map, List.map_map, List.map_map]
    exact List.map_congr_left fun r hr => (h r hr).outcome
  have hmark : ((header :: rows.map texts).flatMap recordChars).head? ≠ some '\ufeff' := by
    obtain ⟨c, cs, hchars, hc⟩ := hheader.begins
    rw [List.flatMap_cons, hchars]
    intro heq
    obtain rfl : c = '\ufeff' := Option.some.inj heq
    exact absurd hc (by decide)
  rw [decode, document, records_written hmark hrecord, List.map_cons, decodeRecords]
  dsimp only
  rw [texts?_encode, hheader.trimmed]
  dsimp only
  rw [List.length_map]
  exact decodeRows_kept file 2 header.length houtcomes

end LedgerMatch.Csv
