import LedgerMatch.Text.Numeral

/-!
# Dates

Days of the proleptic Gregorian calendar in the years -262143 to 262142, in calendar order.
-/

namespace LedgerMatch

/-- Every fourth year is a leap year, but of the full centuries only every fourth. -/
def isLeapYear (year : Int) : Bool := year % 4 = 0 ∧ (year % 100 ≠ 0 ∨ year % 400 = 0)

def daysInMonth (year : Int) (month : Nat) : Nat :=
  if month = 2 then if isLeapYear year then 29 else 28
  else if month = 4 ∨ month = 6 ∨ month = 9 ∨ month = 11 then 30
  else 31

/-- A day that exists in a year of the calendar. -/
structure IsDate (year : Int) (month day : Nat) : Prop where
  year_ge : -262143 ≤ year
  year_le : year ≤ 262142
  month_pos : 1 ≤ month
  month_le : month ≤ 12
  day_pos : 1 ≤ day
  day_le : day ≤ daysInMonth year month

instance (year : Int) (month day : Nat) : Decidable (IsDate year month day) :=
  decidable_of_iff
    (-262143 ≤ year ∧ year ≤ 262142 ∧ 1 ≤ month ∧ month ≤ 12 ∧ 1 ≤ day ∧
      day ≤ daysInMonth year month)
    ⟨fun ⟨a, b, c, d, e, f⟩ => ⟨a, b, c, d, e, f⟩, fun ⟨a, b, c, d, e, f⟩ => ⟨a, b, c, d, e, f⟩⟩

structure Date where
  year : Int
  month : Nat
  day : Nat
  isDate : IsDate year month day
  deriving DecidableEq

namespace Date

def ofParts? (year : Int) (month day : Nat) : Option Date :=
  if h : IsDate year month day then some ⟨year, month, day, h⟩ else none

/-- A number that orders dates as the calendar does. -/
def key (d : Date) : Int := (d.year * 16 + d.month) * 32 + d.day

instance : LT Date := ⟨fun a b => a.key < b.key⟩
instance : LE Date := ⟨fun a b => a.key ≤ b.key⟩
instance (a b : Date) : Decidable (a < b) := inferInstanceAs (Decidable (a.key < b.key))
instance (a b : Date) : Decidable (a ≤ b) := inferInstanceAs (Decidable (a.key ≤ b.key))

/-- The day after, which the last day of the calendar does not have. -/
def next? (d : Date) : Option Date :=
  (ofParts? d.year d.month (d.day + 1)).or
    ((ofParts? d.year (d.month + 1) 1).or (ofParts? (d.year + 1) 1 1))

/-- A year has at least four digits, and a sign outside the years 0 to 9999. -/
def yearText (year : Int) : List Char :=
  if 0 ≤ year ∧ year ≤ 9999 then Text.paddedNumeral 4 year.natAbs
  else (if year < 0 then '-' else '+') :: Text.paddedNumeral 4 year.natAbs

/-- Year, month and day with dashes between them. -/
def chars (d : Date) : List Char :=
  yearText d.year ++ '-' :: Text.paddedNumeral 2 d.month ++ '-' :: Text.paddedNumeral 2 d.day

def text (d : Date) : String := String.ofList d.chars

theorem day_le (d : Date) : d.day ≤ 31 := by
  have h : daysInMonth d.year d.month ≤ 31 := by
    unfold daysInMonth; split
    · split <;> decide
    · split <;> decide
  exact Nat.le_trans d.isDate.day_le h

theorem key_injective {a b : Date} (h : a.key = b.key) : a = b := by
  obtain ⟨ay, am, ad, ha⟩ := a
  obtain ⟨yb, bm, bd, hb⟩ := b
  have := day_le ⟨ay, am, ad, ha⟩
  have := day_le ⟨yb, bm, bd, hb⟩
  have := ha.month_le
  have := hb.month_le
  simp only [key] at *
  simp only [mk.injEq]
  omega

end Date

end LedgerMatch
