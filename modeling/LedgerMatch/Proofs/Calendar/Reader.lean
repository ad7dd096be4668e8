import LedgerMatch.Failure
import LedgerMatch.Proofs.Calendar.Order
import Mathlib.Data.List.TakeWhile

/-!
# Dates and timestamps are read back as written

Each number of a layout is written with as many digits as reading takes for it, and behind a sign
reading takes all digits up to the next dash. So a date is read back as it was written, in any year,
and so is a timestamp without a fraction of a second. The layout of timestamps has no place for a
fraction.
-/

namespace LedgerMatch

-- Powers of whole numbers are the core ones, whatever else is imported.
attribute [local instance (2000)] instPowNat

/-! ### Numbers -/

namespace CalendarField

/-- The number of digits of a field without a sign. -/
def width : CalendarField → Nat
  | year => 4
  | _ => 2

/-- As many digits are read as were written. -/
theorem digits_paddedNumeral {width n : Nat} (hwidth : 0 < width) (hn : n < 10 ^ width)
    (rest : List Char) :
    digits (some width) (Text.paddedNumeral width n ++ rest) = .ok (n, rest) := by
  have hlength := Text.length_paddedNumeral hwidth hn
  have hne := Text.paddedNumeral_ne_nil width n
  have hfront : ((Text.paddedNumeral width n ++ rest).take width).takeWhile Text.isDigit
      = Text.paddedNumeral width n := by
    rw [List.take_append_of_le_length (Nat.le_of_eq hlength.symm),
      List.take_of_length_le (Nat.le_of_eq hlength)]
    exact List.takeWhile_eq_self_iff.2 fun c hc => Text.isDigit_of_mem_paddedNumeral hc
  rw [digits, if_neg (by simp [hne])]
  dsimp only
  rw [hfront, if_neg hne, Text.digitsValue_paddedNumeral, List.drop_left]

/-- All digits up to a dash are read. -/
theorem digits_dash (width n : Nat) (rest : List Char) :
    digits none (Text.paddedNumeral width n ++ '-' :: rest) = .ok (n, '-' :: rest) := by
  have hne := Text.paddedNumeral_ne_nil width n
  have hdash : Text.isDigit '-' = false := by decide
  have hfront : (Text.paddedNumeral width n ++ '-' :: rest).takeWhile Text.isDigit
      = Text.paddedNumeral width n := by
    rw [List.takeWhile_append_of_pos fun c hc => Text.isDigit_of_mem_paddedNumeral hc,
      List.takeWhile_cons_of_neg (by rw [hdash]; decide), List.append_nil]
  rw [digits, if_neg (by simp [hne])]
  dsimp only
  rw [hfront, if_neg hne, Text.digitsValue_paddedNumeral, List.drop_left]

/-- Behind a sign a year is read up to the next dash. -/
theorem read_sign (negative : Bool) (width n : Nat) (rest : List Char) :
    year.read ((if negative then '-' else '+') :: (Text.paddedNumeral width n ++ '-' :: rest))
      = .ok (if negative then -(n : Int) else n, '-' :: rest) := by
  cases negative with
  | false =>
      show (digits none (Text.paddedNumeral width n ++ '-' :: rest)).map _ = _
      rw [digits_dash]
      rfl
  | true =>
      show (digits none (Text.paddedNumeral width n ++ '-' :: rest)).map _ = _
      rw [digits_dash]
      rfl

theorem read_paddedNumeral (field : CalendarField) {n : Nat} (hn : n < 10 ^ field.width)
    (rest : List Char) :
    field.read (Text.paddedNumeral field.width n ++ rest) = .ok ((n : Int), rest) := by
  have hdigits := digits_paddedNumeral (by cases field <;> decide) hn rest
  cases field with
  | year =>
      cases htext : Text.paddedNumeral (width year) n with
      | nil =>
          have hlength := Text.length_paddedNumeral (by decide) hn
          rw [htext] at hlength
          cases hlength
      | cons c cs =>
          -- the first digit is neither of the two signs
          have hc : Text.isDigit c = true := by
            apply Text.isDigit_of_mem_paddedNumeral
            rw [htext]
            exact List.mem_cons_self
          have hminus : c ≠ '-' := by rintro rfl; cases hc
          have hplus : c ≠ '+' := by rintro rfl; cases hc
          rw [htext] at hdigits
          unfold read
          split
          · next h => cases h; exact (hminus rfl).elim
          · next h => cases h; exact (hplus rfl).elim
          · exact congrArg (Except.map _) hdigits
          · next h _ _ => exact (h rfl).elim
  | month | day | hour | minute | second =>
      exact congrArg (Except.map _) hdigits

end CalendarField

theorem skipBlanks_paddedNumeral (width n : Nat) (rest : List Char) :
    Text.skipBlanks (Text.paddedNumeral width n ++ rest) = Text.paddedNumeral width n ++ rest :=
  Text.skipBlanks_of_head fun _ hc => Text.isBlank_of_isDigit (Text.isDigit_of_head_paddedNumeral hc)

/-- A number in the range of its field is read and set. -/
theorem readLayout_number {p q : CalendarParts} {field : CalendarField} {n : Nat}
    (hn : n < 10 ^ field.width) (hset : p.set field n = .ok q) (items : List LayoutItem)
    (rest : List Char) :
    readLayout p (.number field :: items) (Text.paddedNumeral field.width n ++ rest)
      = readLayout q items rest := by
  rw [readLayout, skipBlanks_paddedNumeral, field.read_paddedNumeral hn]
  dsimp only
  rw [hset]

theorem readLayout_mark (p : CalendarParts) (m : Char) (items : List LayoutItem)
    (rest : List Char) : readLayout p (.mark m :: items) (m :: rest) = readLayout p items rest :=
  if_pos rfl

/-! ### Dates -/

namespace Date

/-- The numbers of a date. -/
def parts (d : Date) : CalendarParts := { year := d.year, month := d.month, day := d.day }

/-- A year is read up to the dash behind it, with or without a sign. -/
theorem readLayout_yearText (d : Date) (items : List LayoutItem) (rest : List Char) :
    readLayout {} (.number .year :: items) (yearText d.year ++ '-' :: rest)
      = readLayout { year := d.year } items ('-' :: rest) := by
  have hset : CalendarParts.set {} .year d.year = .ok { year := d.year } :=
    if_pos ⟨by have := d.isDate.year_ge; omega, by have := d.isDate.year_le; omega⟩
  rw [yearText]
  split
  · next h =>
      have hyear : (d.year.natAbs : Int) = d.year := Int.natAbs_of_nonneg h.1
      have hdigits : d.year.natAbs < 10 ^ CalendarField.year.width := by
        show d.year.natAbs < 10 ^ 4
        omega
      exact readLayout_number hdigits (by rw [hyear]; exact hset) _ _
  · have hyear : (if decide (d.year < 0) then -(d.year.natAbs : Int) else d.year.natAbs) = d.year := by
      by_cases hneg : d.year < 0
      · rw [if_pos (decide_eq_true hneg)]
        omega
      · rw [if_neg (by simpa using hneg)]
        omega
    have hread := CalendarField.read_sign (d.year < 0) 4 d.year.natAbs rest
    rw [hyear] at hread
    have hblank : ∀ cs, Text.skipBlanks ((if d.year < 0 then '-' else '+') :: cs)
        = (if d.year < 0 then '-' else '+') :: cs :=
      fun _ => List.dropWhile_cons_of_neg (by split <;> decide)
    rw [readLayout, List.cons_append, hblank]
    simp only [decide_eq_true_eq] at hread
    rw [hread]
    dsimp only
    rw [hset]

theorem readLayout_chars (d : Date) (items : List LayoutItem) (rest : List Char) :
    readLayout {} (dateLayout ++ items) (d.chars ++ rest) = readLayout d.parts items rest := by
  have hmonth := d.isDate.month_le
  have hday := d.day_le
  have hsetMonth : CalendarParts.set { year := d.year } .month (d.month : Int)
      = .ok { year := d.year, month := d.month } :=
    if_pos ⟨by have := d.isDate.month_pos; omega, by omega⟩
  have hsetDay : CalendarParts.set { year := d.year, month := d.month } .day (d.day : Int)
      = .ok d.parts :=
    if_pos ⟨by have := d.isDate.day_pos; omega, by omega⟩
  have hdigits : d.month < 10 ^ CalendarField.month.width := by
    show d.month < 10 ^ 2
    omega
  have hdigits' : d.day < 10 ^ CalendarField.day.width := by
    show d.day < 10 ^ 2
    omega
  rw [chars]
  simp only [List.append_assoc, List.cons_append, dateLayout, List.nil_append]
  refine (readLayout_yearText d _ _).trans ?_
  refine (readLayout_mark _ _ _ _).trans ?_
  refine (readLayout_number hdigits hsetMonth _ _).trans ?_
  refine (readLayout_mark _ _ _ _).trans ?_
  exact readLayout_number hdigits' hsetDay _ _

/-- A date is read back as it was written. -/
theorem read_chars (d : Date) : read dateLayout d.chars = .ok d := by
  have hlayout := readLayout_chars d [] []
  rw [List.append_nil, List.append_nil] at hlayout
  have hparts : ofParts? d.year d.month d.day = some d := dif_pos d.isDate
  rw [read, hlayout]
  show d.parts.date = .ok d
  rw [CalendarParts.date, parts, hparts]

theorem not_blank_of_head_chars {d : Date} {rest : List Char} {c : Char}
    (h : c ∈ (d.chars ++ rest).head?) : Text.isBlank c = false := by
  rw [chars, yearText] at h
  simp only [List.append_assoc] at h
  split at h
  · exact Text.isBlank_of_isDigit (Text.isDigit_of_head_paddedNumeral h)
  · -- a sign stands in front
    cases h
    split <;> decide

theorem trim_text (d : Date) : Text.trim d.text = d.text := by
  refine Text.trim_of_ends ?_ ?_ <;> rw [text, String.toList_ofList]
  · intro c hc
    rw [← List.append_nil d.chars] at hc
    exact not_blank_of_head_chars hc
  · exact fun c hc => Text.isBlank_of_isDigit (Text.isDigit_of_last_paddedNumeral hc)

theorem ofText_text (d : Date) : ofText d.text = .ok d := by
  rw [ofText, trim_text, text, String.toList_ofList, read_chars]

end Date

/-! ### Timestamps -/

namespace Timestamp

variable {t : Timestamp}

/-- The numbers of a timestamp down to the second. -/
def parts (t : Timestamp) : CalendarParts :=
  { t.date.parts with hour := t.hour, minute := t.minute, second := t.second }

theorem readLayout_secondChars (t : Timestamp) :
    readLayout {} timestampLayout (t.secondChars ' ') = .ok t.parts := by
  have hhour := t.hour_lt
  have hminute := t.minute_lt
  have hsecond := t.second_le
  have hsetHour : t.date.parts.set .hour (t.hour : Int)
      = .ok { t.date.parts with hour := t.hour } :=
    if_pos ⟨by omega, by omega⟩
  have hsetMinute : CalendarParts.set { t.date.parts with hour := t.hour } .minute (t.minute : Int)
      = .ok { t.date.parts with hour := t.hour, minute := t.minute } :=
    if_pos ⟨by omega, by omega⟩
  have hsetSecond : CalendarParts.set { t.date.parts with hour := t.hour, minute := t.minute } .second
      (t.second : Int) = .ok t.parts :=
    if_pos ⟨by omega, by omega⟩
  have hdigits : t.hour < 10 ^ 2 := by omega
  have hdigits' : t.minute < 10 ^ 2 := by omega
  have hdigits'' : t.second < 10 ^ 2 := by omega
  have hblank : ∀ rest, Text.skipBlanks (' ' :: rest) = Text.skipBlanks rest :=
    fun _ => List.dropWhile_cons_of_pos (by decide)
  rw [secondChars]
  simp only [List.append_assoc, List.cons_append]
  refine (Date.readLayout_chars t.date _ _).trans ?_
  rw [readLayout, hblank, skipBlanks_paddedNumeral]
  refine (readLayout_number hdigits hsetHour _ _).trans ?_
  refine (readLayout_mark _ _ _ _).trans ?_
  refine (readLayout_number hdigits' hsetMinute _ _).trans ?_
  refine (readLayout_mark _ _ _ _).trans ?_
  rw [← List.append_nil (Text.paddedNumeral 2 t.second)]
  exact readLayout_number hdigits'' hsetSecond [] []

/-- A timestamp without a fraction of a second is read back as it was written. -/
theorem read_secondChars (hwhole : t.billionths = 0) :
    read timestampLayout (t.secondChars ' ') = .ok t := by
  have hdate : Date.ofParts? t.date.year t.date.month t.date.day = some t.date :=
    dif_pos t.date.isDate
  have htime : ofParts? t.date t.hour t.minute t.second 0 = some t := by
    have hparts : ofParts? t.date t.hour t.minute t.second t.billionths = some t :=
      dif_pos ⟨t.hour_lt, t.minute_lt, t.second_le, t.billionths_lt⟩
    rw [hwhole] at hparts
    exact hparts
  rw [read, readLayout_secondChars t]
  show t.parts.timestamp = .ok t
  rw [CalendarParts.timestamp]
  dsimp only [parts, Date.parts]
  rw [hdate]
  dsimp only
  rw [htime]

theorem trim_text (t : Timestamp) : Text.trim t.text = t.text := by
  refine Text.trim_of_ends ?_ ?_ <;> rw [text, String.toList_ofList, secondChars]
  · simp only [List.append_assoc]
    exact fun c hc => Date.not_blank_of_head_chars hc
  · exact fun c hc => Text.isBlank_of_isDigit (Text.isDigit_of_last_paddedNumeral hc)

theorem ofText_text (hwhole : t.billionths = 0) : ofText t.text = .ok t := by
  rw [ofText, trim_text, text, String.toList_ofList, read_secondChars hwhole]

end Timestamp

/-! ### Fractions of a second -/

theorem CalendarParts.billionths_of_set {p q : CalendarParts} {field : CalendarField} {n : Int}
    (h : p.set field n = .ok q) : q.billionths = p.billionths := by
  cases field <;>
  · dsimp only [set] at h
    split at h
    · cases h
      rfl
    · cases h

/-- Only a fraction in the layout sets the fraction of a second. -/
theorem billionths_of_readLayout {p q : CalendarParts} {items : List LayoutItem} {cs : List Char}
    (hitems : .fraction ∉ items) (h : readLayout p items cs = .ok q) :
    q.billionths = p.billionths := by
  induction items generalizing p cs with
  | nil =>
      cases cs with
      | nil =>
          cases h
          rfl
      | cons c rest => cases h
  | cons item items ih =>
      have hrest : .fraction ∉ items := fun hmem => hitems (List.mem_cons_of_mem _ hmem)
      cases item with
      | fraction => exact (hitems List.mem_cons_self).elim
      | blanks =>
          rw [readLayout] at h
          exact ih hrest h
      | mark m =>
          cases cs with
          | nil => cases h
          | cons c cs =>
              rw [readLayout] at h
              split at h
              · exact ih hrest h
              · cases h
      | number field =>
          rw [readLayout] at h
          split at h
          · cases h
          · split at h
            · cases h
            · next hset => exact (ih hrest h).trans (CalendarParts.billionths_of_set hset)

/-- A timestamp that is read has no fraction of a second. -/
theorem Timestamp.billionths_of_read {cs : List Char} {t : Timestamp}
    (h : read timestampLayout cs = .ok t) : t.billionths = 0 := by
  rw [read] at h
  cases hparts : readLayout {} timestampLayout cs with
  | error fault =>
      rw [hparts] at h
      cases h
  | ok q =>
      have hzero : q.billionths = 0 := billionths_of_readLayout (by decide) hparts
      rw [hparts] at h
      replace h : q.timestamp = .ok t := h
      rw [CalendarParts.timestamp] at h
      split at h
      · cases h
      · split at h
        · next htime =>
            cases h
            rw [ofParts?] at htime
            split at htime
            · cases htime
              exact hzero
            · cases htime
        · cases h

end LedgerMatch
