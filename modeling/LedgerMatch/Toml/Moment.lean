import LedgerMatch.Calendar.Date
import LedgerMatch.Value

/-!
# Dates and times in TOML

A moment is a date, a time of day, or both, the latter perhaps with an offset. It is kept as a text
in one spelling: the letter T before the time, a capital Z, and no zeros at the end of a fraction.
-/

namespace LedgerMatch.Toml

/-- The number of exactly so many digits at the front of a text, and the rest. -/
def fixedNumber? (width : Nat) (cs : List Char) : Option (Nat × List Char) :=
  let front := cs.take width
  if front.length = width ∧ front.all Text.isDigit then
    some (Text.digitsValue front, cs.drop width)
  else none

/-- The text behind a character. -/
def behind? (c : Char) : List Char → Option (List Char)
  | d :: cs => if c = d then some cs else none
  | [] => none

/-- Reads the date at the front of a text, and returns its spelling and the rest. -/
def date? (cs : List Char) : Option (List Char × List Char) := do
  let (year, cs) ← fixedNumber? 4 cs
  let (month, cs) ← fixedNumber? 2 (← behind? '-' cs)
  let (day, cs) ← fixedNumber? 2 (← behind? '-' cs)
  let d ← Date.ofParts? year month day
  some (d.chars, cs)

/-- The spelling of a fraction of a second: nine digits count, and zeros at the end do not. -/
def fractionChars (digits : List Char) : List Char :=
  let kept := ((digits.take 9).reverse.dropWhile (· == '0')).reverse
  if kept = [] then [] else '.' :: kept

/-- Reads the fraction of a second at the front of a text, if there is one. -/
def secondFraction? : List Char → Option (List Char × List Char)
  | '.' :: cs =>
      let digits := cs.takeWhile Text.isDigit
      if digits = [] then none else some (fractionChars digits, cs.dropWhile Text.isDigit)
  | cs => some ([], cs)

/-- Hour and minute with a colon between them. -/
def clockChars (hour minute : Nat) : List Char :=
  Text.paddedNumeral 2 hour ++ ':' :: Text.paddedNumeral 2 minute

/-- Reads an hour and a minute at the front of a text. -/
def clock? (cs : List Char) : Option (Nat × Nat × List Char) := do
  let (hour, cs) ← fixedNumber? 2 cs
  let (minute, cs) ← fixedNumber? 2 (← behind? ':' cs)
  if hour ≤ 23 ∧ minute ≤ 59 then some (hour, minute, cs) else none

/-- Reads the time of day at the front of a text, and returns its spelling and the rest. -/
def time? (cs : List Char) : Option (List Char × List Char) := do
  let (hour, minute, cs) ← clock? cs
  let (second, cs) ← fixedNumber? 2 (← behind? ':' cs)
  let (fraction, cs) ← secondFraction? cs
  if second ≤ 60 then
    some (clockChars hour minute ++ ':' :: Text.paddedNumeral 2 second ++ fraction, cs)
  else none

/-- The spelling of an offset from universal time. No offset at all counts as positive. -/
def offsetChars (negative : Bool) (hour minute : Nat) : List Char :=
  (if negative ∧ (hour, minute) ≠ (0, 0) then '-' else '+') :: clockChars hour minute

/-- Reads the offset that a text consists of. -/
def offset? : List Char → Option (List Char)
  | [] => some []
  | ['Z'] => some ['Z']
  | ['z'] => some ['Z']
  | c :: cs => do
      let (hour, minute, rest) ← clock? cs
      if rest = [] ∧ (c = '+' ∨ c = '-') then some (offsetChars (c == '-') hour minute) else none

/-- Reads the time of day and offset behind a date. -/
def timeAndOffset? (cs : List Char) : Option (List Char) := do
  let (time, rest) ← time? cs
  some ('T' :: time ++ (← offset? rest))

/-- Reads a moment that a word consists of. -/
def moment? (cs : List Char) : Option (List Char) :=
  match date? cs with
  | some (date, []) => some date
  | some (date, c :: rest) =>
      if c = 'T' ∨ c = 't' ∨ c = ' ' then (timeAndOffset? rest).map (date ++ ·) else none
  | none =>
      match time? cs with
      | some (time, []) => some time
      | _ => none

/-- A word that is a date and nothing else. -/
def isDate (cs : List Char) : Bool :=
  match date? cs with
  | some (_, []) => true
  | _ => false

end LedgerMatch.Toml
