import LedgerMatch.Calendar.Timestamp
import LedgerMatch.Proofs.Text.Digits

/-!
# The order of dates

In the years 0 to 9999 a later date has a later text, so that dates can be compared by their texts.
No date lies between a date and the day after it.
-/

namespace LedgerMatch

namespace Date

/-- A date that is written without a sign, with four digits for its year. -/
def HasPlainYear (d : Date) : Prop := 0 ≤ d.year ∧ d.year ≤ 9999

theorem chars_of_plainYear {d : Date} (h : d.HasPlainYear) :
    d.chars = Text.paddedNumeral 4 d.year.natAbs ++ '-' :: Text.paddedNumeral 2 d.month
      ++ '-' :: Text.paddedNumeral 2 d.day := by
  have hyear : 0 ≤ d.year ∧ d.year ≤ 9999 := h
  rw [chars, yearText, if_pos hyear]

/-! ### Texts in order -/

theorem text_lt {a b : Date} (ha : a.HasPlainYear) (hb : b.HasPlainYear) (h : a < b) :
    a.text < b.text := by
  have hkey : a.key < b.key := h
  have hday := a.day_le
  have hmonth := a.isDate.month_le
  have hmonth' := b.isDate.month_le
  have hday' := b.day_le
  have hyear : a.year.natAbs < 10 ^ 4 := by have := ha.1; have := ha.2; omega
  have hyear' : b.year.natAbs < 10 ^ 4 := by have := hb.1; have := hb.2; omega
  have hlength : (Text.paddedNumeral 4 a.year.natAbs).length
      = (Text.paddedNumeral 4 b.year.natAbs).length := by
    rw [Text.length_paddedNumeral (by decide) hyear, Text.length_paddedNumeral (by decide) hyear']
  have hlength' : (Text.paddedNumeral 2 a.month).length = (Text.paddedNumeral 2 b.month).length := by
    rw [Text.length_paddedNumeral (by decide) (by omega),
      Text.length_paddedNumeral (by decide) (by omega)]
  rw [String.lt_iff_toList_lt, text, text, String.toList_ofList, String.toList_ofList,
    chars_of_plainYear ha, chars_of_plainYear hb, List.append_assoc, List.append_assoc]
  simp only [key] at hkey
  have := ha.1
  have := hb.1
  rcases Int.lt_trichotomy a.year b.year with hlt | heq | hgt
  · exact Text.append_lt_append hlength (Text.paddedNumeral_lt (by decide) (by omega) hyear') _ _
  · rw [heq]
    refine List.append_left_lt (List.cons_lt_cons_iff.2 (Or.inr ⟨rfl, ?_⟩))
    rcases Nat.lt_trichotomy a.month b.month with hlt | heq' | hgt
    · exact Text.append_lt_append hlength' (Text.paddedNumeral_lt (by decide) hlt (by omega)) _ _
    · rw [heq']
      refine List.append_left_lt (List.cons_lt_cons_iff.2 (Or.inr ⟨rfl, ?_⟩))
      exact Text.paddedNumeral_lt (by decide) (by omega) (by omega)
    · omega
  · omega

theorem text_le {a b : Date} (ha : a.HasPlainYear) (hb : b.HasPlainYear) (h : a ≤ b) :
    a.text ≤ b.text := by
  have hkey : a.key ≤ b.key := h
  rcases Int.lt_or_eq_of_le hkey with hlt | heq
  · exact String.not_lt.1 (String.lt_asymm (text_lt ha hb hlt))
  · rw [key_injective heq]

theorem text_le_iff {a b : Date} (ha : a.HasPlainYear) (hb : b.HasPlainYear) :
    a.text ≤ b.text ↔ a ≤ b := by
  constructor
  · intro htext
    by_contra hlt
    exact String.not_lt.2 htext (text_lt hb ha (Int.not_le.1 hlt))
  · exact text_le ha hb

/-- A sign comes before every digit, so that no date with a sign has a text behind that of a date
without one. -/
theorem plainYear_of_text_le {a b : Date} (ha : a.HasPlainYear) (h : a.text ≤ b.text) :
    b.HasPlainYear := by
  by_contra hb
  obtain ⟨c, cs, hchars, hdigit⟩ : ∃ c cs, a.chars = c :: cs ∧ Text.isDigit c = true := by
    rw [chars_of_plainYear ha, List.append_assoc]
    cases htext : Text.paddedNumeral 4 a.year.natAbs with
    | nil => exact (Text.paddedNumeral_ne_nil _ _ htext).elim
    | cons c cs =>
        have hmem : c ∈ Text.paddedNumeral 4 a.year.natAbs := by
          rw [htext]
          exact List.mem_cons_self
        exact ⟨c, _, rfl, Text.isDigit_of_mem_paddedNumeral hmem⟩
  have hsign : b.text < a.text := by
    rw [String.lt_iff_toList_lt, text, text, String.toList_ofList, String.toList_ofList, hchars,
      chars, yearText, if_neg (show ¬ (0 ≤ b.year ∧ b.year ≤ 9999) from hb)]
    refine List.cons_lt_cons_iff.2 (Or.inl ?_)
    have hrange := Text.toNat_of_isDigit hdigit
    rw [Char.lt_def, UInt32.lt_iff_toNat_lt]
    show (if b.year < 0 then '-' else '+').toNat < c.toNat
    split
    · show 45 < c.toNat
      omega
    · show 43 < c.toNat
      omega
  exact String.not_lt.2 h hsign

/-- A day between two days in the years 0 to 9999 is in one of these years. -/
theorem plainYear_of_between {a b d : Date} (ha : a.HasPlainYear) (hb : b.HasPlainYear)
    (hfirst : a ≤ d) (hlast : d ≤ b) : d.HasPlainYear := by
  have hfirst' : a.key ≤ d.key := hfirst
  have hlast' : d.key ≤ b.key := hlast
  have := ha.1
  have := hb.2
  have := a.isDate.month_pos
  have := b.isDate.month_le
  have := b.day_le
  have := d.isDate.month_le
  have := d.day_le
  simp only [key] at hfirst' hlast'
  exact ⟨by omega, by omega⟩

/-! ### The day after -/

theorem ofParts?_eq_some {year : Int} {month day : Nat} {d : Date}
    (h : ofParts? year month day = some d) : d.year = year ∧ d.month = month ∧ d.day = day := by
  rw [ofParts?] at h
  split at h
  · cases h
    exact ⟨rfl, rfl, rfl⟩
  · cases h

theorem ofParts?_eq_none {year : Int} {month day : Nat} (h : ofParts? year month day = none) :
    ¬ IsDate year month day := by
  rw [ofParts?] at h
  split at h
  · cases h
  · assumption

theorem one_le_daysInMonth (year : Int) (month : Nat) : 1 ≤ daysInMonth year month := by
  unfold daysInMonth
  split
  · split <;> decide
  · split <;> decide

/-- A date that no date of its month follows is the last of the month. -/
theorem daysInMonth_le {d : Date} (h : ofParts? d.year d.month (d.day + 1) = none) :
    daysInMonth d.year d.month ≤ d.day := by
  have hno := ofParts?_eq_none h
  by_contra hmore
  exact hno ⟨d.isDate.year_ge, d.isDate.year_le, d.isDate.month_pos, d.isDate.month_le,
    by omega, by omega⟩

/-- A month that no month of its year follows is December. -/
theorem twelve_le_month {d : Date} (h : ofParts? d.year (d.month + 1) 1 = none) :
    12 ≤ d.month := by
  have hno := ofParts?_eq_none h
  by_contra hmore
  exact hno ⟨d.isDate.year_ge, d.isDate.year_le, by omega, by omega, Nat.le_refl _,
    one_le_daysInMonth _ _⟩

/-- What is before the day after a date is not after the date. -/
theorem le_of_lt_next {d n e : Date} (hnext : d.next? = some n) (h : e < n) : e ≤ d := by
  show e.key ≤ d.key
  have hlt : e.key < n.key := h
  have hpos := e.isDate.day_pos
  have hday := e.day_le
  have hmonth := e.isDate.month_le
  have hpos' := e.isDate.month_pos
  have hmonth' := d.isDate.month_le
  simp only [key] at hlt ⊢
  rw [next?] at hnext
  cases hsame : ofParts? d.year d.month (d.day + 1) with
  | some n' =>
      rw [hsame] at hnext
      cases hnext
      obtain ⟨hy, hm, hd⟩ := ofParts?_eq_some hsame
      rw [hy, hm, hd] at hlt
      omega
  | none =>
      -- the date is the last of its month, and no date of the month is after it
      have hlast := daysInMonth_le hsame
      have hwithin : e.year = d.year → e.month = d.month → e.day ≤ d.day := by
        intro hy hm
        have hle := e.isDate.day_le
        rw [hy, hm] at hle
        exact Nat.le_trans hle hlast
      rw [hsame, Option.none_or] at hnext
      cases hmonths : ofParts? d.year (d.month + 1) 1 with
      | some n' =>
          rw [hmonths] at hnext
          cases hnext
          obtain ⟨hy, hm, hd⟩ := ofParts?_eq_some hmonths
          rw [hy, hm, hd] at hlt
          omega
      | none =>
          have hdecember := twelve_le_month hmonths
          rw [hmonths, Option.none_or] at hnext
          obtain ⟨hy, hm, hd⟩ := ofParts?_eq_some hnext
          rw [hy, hm, hd] at hlt
          omega

theorem lt_next {d n : Date} (hnext : d.next? = some n) : d < n := by
  show d.key < n.key
  have hmonth := d.isDate.month_le
  have hday := d.day_le
  simp only [key]
  rw [next?] at hnext
  rcases Option.or_eq_some_iff.1 hnext with hsame | ⟨-, hlater⟩
  · obtain ⟨hy, hm, hd⟩ := ofParts?_eq_some hsame
    omega
  · rcases Option.or_eq_some_iff.1 hlater with hmonths | ⟨-, hyears⟩
    · obtain ⟨hy, hm, hd⟩ := ofParts?_eq_some hmonths
      omega
    · obtain ⟨hy, hm, hd⟩ := ofParts?_eq_some hyears
      omega

/-- Only the last day of the calendar has no day after it. -/
theorem of_next_eq_none {d : Date} (h : d.next? = none) :
    d.year = 262142 ∧ d.month = 12 ∧ d.day = 31 := by
  rw [next?, Option.or_eq_none_iff, Option.or_eq_none_iff] at h
  obtain ⟨hsame, hmonths, hyears⟩ := h
  have hdecember := twelve_le_month hmonths
  have hmonth : d.month = 12 := Nat.le_antisymm d.isDate.month_le hdecember
  have hdays := daysInMonth_le hsame
  have hlength : daysInMonth d.year d.month = 31 := by
    rw [hmonth]
    rfl
  have hyear := ofParts?_eq_none hyears
  have hday := d.day_le
  refine ⟨?_, hmonth, by omega⟩
  by_contra hmore
  have hge := d.isDate.year_ge
  have hle := d.isDate.year_le
  exact hyear ⟨by omega, by omega, by decide, by decide, Nat.le_refl _, one_le_daysInMonth _ _⟩

theorem le_of_next_eq_none {d : Date} (h : d.next? = none) (e : Date) : e ≤ d := by
  show e.key ≤ d.key
  obtain ⟨hyear, hmonth, hday⟩ := of_next_eq_none h
  have := e.isDate.year_le
  have := e.isDate.month_le
  have := e.day_le
  simp only [key]
  omega

/-- The last day of the calendar. -/
def final : Date := ⟨262142, 12, 31, by decide⟩

theorem next?_eq_none_iff {d : Date} : d.next? = none ↔ d = final := by
  constructor
  · intro h
    obtain ⟨hyear, hmonth, hday⟩ := of_next_eq_none h
    apply key_injective
    rw [key, hyear, hmonth, hday]
    rfl
  · rintro rfl
    decide

theorem le_final (d : Date) : d ≤ final := le_of_next_eq_none (next?_eq_none_iff.2 rfl) d

theorem HasPlainYear.next?_ne_none {d : Date} (h : d.HasPlainYear) : d.next? ≠ none := by
  intro hnone
  have := (of_next_eq_none hnone).1
  have := h.2
  omega

end Date

namespace Timestamp

theorem lt_midnight {d : Date} {t : Timestamp} : t < midnight d ↔ t.date < d := by
  have hle := midnight_le (d := d) (t := t)
  change (midnight d).key ≤ t.key ↔ d.key ≤ t.date.key at hle
  change t.key < (midnight d).key ↔ t.date.key < d.key
  omega

end Timestamp

end LedgerMatch
