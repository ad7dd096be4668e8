import LedgerMatch.Amount.Reader
import LedgerMatch.Proofs.Binary64.Extended
import LedgerMatch.Proofs.Text.Digits

/-!
# Numerals and what they denote

A numeral has a sign, digits with a point among them, underscores that count for nothing, and a
power of ten behind the letter e. Reading its digits keeps as many of them as an amount can hold, and
rounds where the first one is left out. What is kept is the number that the numeral denotes whenever
some amount is that number, and less than one unit of its last decimal off otherwise.
-/

namespace LedgerMatch

-- Powers of whole numbers are the core ones, whatever else is imported.
attribute [local instance (2000)] instPowNat

namespace Numeral

open Text

/-! ### Grammar -/

/-- Digits, with underscores and at most one point among them. -/
structure IsUnsigned (cs : List Char) : Prop where
  marks : ∀ c ∈ cs, isDigit c = true ∨ c = '_' ∨ c = '.'
  points : cs.count '.' ≤ 1
  digits : ∃ c ∈ cs, isDigit c = true

/-- The characters behind a sign. -/
def withoutSign (cs : List Char) : List Char :=
  if cs.head? = some '-' ∨ cs.head? = some '+' then cs.tail else cs

/-- The letter between the base of a numeral and its power of ten. -/
def isPowerMark (c : Char) : Bool := c == 'e' || c == 'E'

/-- What stands before the power of ten. -/
def base (cs : List Char) : List Char := cs.takeWhile fun c => !isPowerMark c

/-- What stands behind the letter in front of the power of ten. -/
def power (cs : List Char) : List Char := (cs.dropWhile fun c => !isPowerMark c).tail

/-- Digits behind an optional sign. A minus sign may have a plus sign behind it. -/
def IsPower (cs : List Char) : Prop :=
  ∃ sign ∈ [[], ['+'], ['-'], ['-', '+']], ∃ ds ≠ [],
    (∀ c ∈ ds, isDigit c = true) ∧ cs = sign ++ ds

/-- A numeral has a base, and perhaps a power of ten. -/
structure IsNumeral (cs : List Char) : Prop where
  unsigned : IsUnsigned (withoutSign (base cs))
  scaled : base cs = cs ∨ IsPower (power cs)

/-! ### Value -/

def digits (cs : List Char) : List Char := cs.filter isDigit

/-- The digits behind the point. -/
def decimals (cs : List Char) : List Char := digits (cs.dropWhile (· != '.'))

/-- The number of the digits, with the point where it stands. -/
def unsigned (cs : List Char) : ℚ := digitsValue (digits cs) / 10 ^ (decimals cs).length

/-- The number of the digits, with the sign in front of them. -/
def signed (cs : List Char) : ℚ :=
  if cs.head? = some '-' then -unsigned cs else unsigned cs

/-- The whole number behind the letter, with its sign. -/
def exponent (cs : List Char) : Int :=
  if (power cs).head? = some '-' then -(digitsValue (digits (power cs)) : Int)
  else digitsValue (digits (power cs))

/-- The number that a numeral denotes. -/
def value (cs : List Char) : ℚ := signed (base cs) * 10 ^ exponent cs

/-! ### Continuing a number -/

/-- The number of the digits that follow a number with so many decimals. -/
def continued (point : Bool) (n places : Nat) (cs : List Char) : ℚ :=
  ((digits cs).foldl pushDigit n : Nat)
    / 10 ^ (places + if point then (digits cs).length else (decimals cs).length)

theorem unsigned_eq_continued (cs : List Char) : unsigned cs = continued false 0 0 cs := by
  simp [unsigned, continued, digitsValue]

theorem digits_cons_digit {c : Char} (h : isDigit c = true) (cs : List Char) :
    digits (c :: cs) = c :: digits cs := List.filter_cons_of_pos h

theorem digits_cons_mark {c : Char} (h : isDigit c = false) (cs : List Char) :
    digits (c :: cs) = digits cs := List.filter_cons_of_neg (by simp [h])

theorem decimals_cons_of_ne {c : Char} (h : c ≠ '.') (cs : List Char) :
    decimals (c :: cs) = decimals cs := by
  rw [decimals, List.dropWhile_cons_of_pos (by simpa using h), ← decimals]

theorem decimals_cons_point (cs : List Char) : decimals ('.' :: cs) = digits cs := rfl

@[simp] theorem continued_nil (point : Bool) (n places : Nat) :
    continued point n places [] = n / 10 ^ places := by
  cases point <;> simp [continued, digits, decimals]

/-- A digit is appended to the number, as a decimal if it stands behind the point. -/
theorem continued_digit (point : Bool) (n places : Nat) {c : Char} (h : isDigit c = true)
    (cs : List Char) :
    continued point n places (c :: cs)
      = continued point (pushDigit n c) (if point then places + 1 else places) cs := by
  have hne : c ≠ '.' := by
    rintro rfl
    cases h
  rw [continued, continued, digits_cons_digit h, decimals_cons_of_ne hne]
  cases point <;> simp [Nat.add_assoc, Nat.add_comm 1]

theorem continued_point (n places : Nat) (cs : List Char) :
    continued false n places ('.' :: cs) = continued true n places cs := by
  rw [continued, continued, digits_cons_mark (by decide), decimals_cons_point]
  rfl

/-- A character that is neither a digit nor a point counts for nothing. -/
theorem continued_mark (point : Bool) (n places : Nat) {c : Char} (hdigit : isDigit c = false)
    (hpoint : c ≠ '.') (cs : List Char) :
    continued point n places (c :: cs) = continued point n places cs := by
  rw [continued, continued, digits_cons_mark hdigit, decimals_cons_of_ne hpoint]

/-- Underscores in front are skipped. -/
theorem continued_dropWhile (point : Bool) (n places : Nat) (cs : List Char) :
    continued point n places (cs.dropWhile (· == '_')) = continued point n places cs := by
  induction cs with
  | nil => rfl
  | cons c cs ih =>
      by_cases hc : c = '_'
      · subst hc
        rw [List.dropWhile_cons_of_pos (by decide), ih, continued_mark _ _ _ (by decide) (by decide)]
      · rw [List.dropWhile_cons_of_neg (by simpa using hc)]

/-- Further decimals stay below one unit of the last one. -/
theorem continued_bounds (n places : Nat) (cs : List Char) :
    (n : ℚ) / 10 ^ places ≤ continued true n places cs ∧
      continued true n places cs < (n + 1 : ℚ) / 10 ^ places := by
  have hvalue := foldl_pushDigit n (digits cs)
  have hlt : digitsValue (digits cs) < 10 ^ (digits cs).length :=
    digitsValue_lt fun c hc => List.of_mem_filter hc
  have hlower : n * 10 ^ (digits cs).length ≤ (digits cs).foldl pushDigit n := by omega
  have hupper : (digits cs).foldl pushDigit n < (n + 1) * 10 ^ (digits cs).length := by
    rw [Nat.add_mul]
    omega
  have hten : (0 : ℚ) < 10 ^ (digits cs).length := by positivity
  have hle : (n : ℚ) ≤ ((digits cs).foldl pushDigit n : Nat) / 10 ^ (digits cs).length :=
    (le_div_iff₀ hten).2 (by exact_mod_cast hlower)
  have hless : ((digits cs).foldl pushDigit n : Nat) / 10 ^ (digits cs).length < (n + 1 : ℚ) :=
    (div_lt_iff₀ hten).2 (by exact_mod_cast hupper)
  rw [continued, if_pos rfl, pow_add, mul_comm, ← div_div]
  exact ⟨by gcongr, by gcongr⟩

end Numeral

end LedgerMatch
