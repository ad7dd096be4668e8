import LedgerMatch.Calendar.Date

/-!
# Timestamps

A date and a time of day, to the billionth of a second. A leap second, written 60, lies behind
second 59 of its minute and before the next minute.
-/

namespace LedgerMatch

structure Timestamp where
  date : Date
  hour : Nat
  minute : Nat
  second : Nat
  /-- The fraction of the second, in billionths. -/
  billionths : Nat
  hour_lt : hour < 24
  minute_lt : minute < 60
  second_le : second ≤ 60
  billionths_lt : billionths < 1000000000
  deriving DecidableEq

namespace Timestamp

def ofParts? (date : Date) (hour minute second billionths : Nat) : Option Timestamp :=
  if h : hour < 24 ∧ minute < 60 ∧ second ≤ 60 ∧ billionths < 1000000000 then
    some ⟨date, hour, minute, second, billionths, h.1, h.2.1, h.2.2.1, h.2.2.2⟩
  else none

/-- The first moment of a day. -/
def midnight (date : Date) : Timestamp :=
  ⟨date, 0, 0, 0, 0, by decide, by decide, by decide, by decide⟩

/-- The place of a second in its day, leap seconds counted. -/
def secondOfDay (t : Timestamp) : Nat := (t.hour * 60 + t.minute) * 61 + t.second

/-- A number that orders timestamps by date, then by time of day. -/
def key (t : Timestamp) : Int :=
  (t.date.key * 87840 + t.secondOfDay) * 1000000000 + t.billionths

instance : LT Timestamp := ⟨fun a b => a.key < b.key⟩
instance : LE Timestamp := ⟨fun a b => a.key ≤ b.key⟩
instance (a b : Timestamp) : Decidable (a < b) := inferInstanceAs (Decidable (a.key < b.key))
instance (a b : Timestamp) : Decidable (a ≤ b) := inferInstanceAs (Decidable (a.key ≤ b.key))

/-- The fraction of a second behind a point, in three, six or nine digits; a whole second has none. -/
def fractionText (billionths : Nat) : List Char :=
  if billionths = 0 then []
  else if billionths % 1000000 = 0 then '.' :: Text.paddedNumeral 3 (billionths / 1000000)
  else if billionths % 1000 = 0 then '.' :: Text.paddedNumeral 6 (billionths / 1000)
  else '.' :: Text.paddedNumeral 9 billionths

/-- Date and time of day, to the second, with a character between them. -/
def secondChars (separator : Char) (t : Timestamp) : List Char :=
  t.date.chars ++ separator :: Text.paddedNumeral 2 t.hour ++ ':' :: Text.paddedNumeral 2 t.minute
    ++ ':' :: Text.paddedNumeral 2 t.second

/-- Date and time of day, with the fraction of the second. -/
def chars (separator : Char) (t : Timestamp) : List Char :=
  t.secondChars separator ++ fractionText t.billionths

/-- The written form, with a space between date and time of day. It stops at the second. -/
def text (t : Timestamp) : String := String.ofList (t.secondChars ' ')

theorem secondOfDay_lt (t : Timestamp) : t.secondOfDay < 87840 := by
  have := t.hour_lt; have := t.minute_lt; have := t.second_le
  simp only [secondOfDay]; omega

theorem midnight_le {d : Date} {t : Timestamp} : midnight d ≤ t ↔ d ≤ t.date := by
  have := t.secondOfDay_lt; have := t.billionths_lt
  change (d.key * 87840 + 0) * 1000000000 + 0 ≤
    (t.date.key * 87840 + t.secondOfDay) * 1000000000 + t.billionths ↔ d.key ≤ t.date.key
  omega

end Timestamp

end LedgerMatch
