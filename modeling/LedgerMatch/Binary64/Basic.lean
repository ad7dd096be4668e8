/-!
# Double precision numbers

A finite double precision number is a whole count of steps of 2 to the power -1074 that has at
most 53 significant binary digits. This file holds the type and the rounding of an exact quotient
to it: to the nearest count, a half to the even neighbour, and to infinity past the largest count.
-/

namespace LedgerMatch

-- Powers of whole numbers are the core ones, whatever else is imported.
attribute [local instance (2000)] instPowNat

/-- Rounds a quotient to the nearest whole number, a half to the even neighbour. -/
def roundHalfEven (num den : Nat) : Nat :=
  if 2 * (num % den) < den then num / den
  else if den < 2 * (num % den) then num / den + 1
  else num / den + num / den % 2

/-- Rounds a quotient to the nearest whole number, a half upwards. -/
def roundHalfUp (num den : Nat) : Nat := (2 * num + den) / (2 * den)

theorem div_le_roundHalfEven (num den : Nat) : num / den ≤ roundHalfEven num den := by
  unfold roundHalfEven; split
  · exact Nat.le_refl _
  · split <;> omega

theorem roundHalfEven_le_div_succ (num den : Nat) : roundHalfEven num den ≤ num / den + 1 := by
  unfold roundHalfEven; split
  · omega
  · split <;> omega

theorem roundHalfEven_mul {q den : Nat} (h : 0 < den) : roundHalfEven (q * den) den = q := by
  simp [roundHalfEven, h]

namespace Binary64

/-- The number one, in steps. -/
def one : Nat := 2 ^ (1074 : Nat)

/-- The number of binary digits of the largest finite number, in steps. -/
def limitDigits : Nat := 2098

/-- The first power of two past the finite numbers, in steps. -/
def limit : Nat := 2 ^ limitDigits

/-- A count of steps below the limit with at most 53 significant binary digits. -/
def Representable (steps : Nat) : Prop :=
  steps < limit ∧ ∃ m e : Nat, m ≤ 2 ^ (53 : Nat) ∧ steps = m * 2 ^ e

/-- The number of low binary digits that a quotient loses to keep 53. -/
def lostDigits (num den : Nat) : Nat := (num / den).log2 - 52

/-- Rounds a quotient to a count of steps with at most 53 significant binary digits. -/
def roundSteps (num den : Nat) : Nat :=
  roundHalfEven num (den * 2 ^ lostDigits num den) * 2 ^ lostDigits num den

theorem div_lostDigits_lt (num den : Nat) :
    num / (den * 2 ^ lostDigits num den) < 2 ^ (53 : Nat) := by
  rw [← Nat.div_div_eq_div_mul, Nat.div_lt_iff_lt_mul (Nat.two_pow_pos _), ← Nat.pow_add]
  exact Nat.lt_of_lt_of_le Nat.lt_log2_self
    (Nat.pow_le_pow_right (by decide) (by simp only [lostDigits]; omega))

theorem roundSteps_representable {num den : Nat} (h : roundSteps num den < limit) :
    Representable (roundSteps num den) :=
  ⟨h, _, _, Nat.le_trans (roundHalfEven_le_div_succ _ _) (div_lostDigits_lt num den), rfl⟩

theorem limit_pos : 0 < limit := by
  unfold limit; exact Nat.two_pow_pos limitDigits

theorem representable_zero : Representable 0 := ⟨limit_pos, 0, 0, by decide, rfl⟩

end Binary64

/-- A double precision number: a sign and a count of steps, an infinity, or no number at all. -/
inductive Binary64 where
  | finite (negative : Bool) (steps : Nat) (h : Binary64.Representable steps)
  | infinite (negative : Bool)
  | nan
  deriving DecidableEq

namespace Binary64

/-- Zero with a sign. -/
def zero (negative : Bool) : Binary64 := finite negative 0 representable_zero

/-- The number nearest to a quotient of steps, with the given sign. -/
def ofSteps (negative : Bool) (num den : Nat) : Binary64 :=
  if h : roundSteps num den < limit then
    finite negative (roundSteps num den) (roundSteps_representable h)
  else infinite negative

/-- The number nearest to a fraction. -/
def ofFraction (negative : Bool) (num den : Nat) : Binary64 := ofSteps negative (num * one) den

def ofNat (n : Nat) : Binary64 := ofFraction false n 1

instance : Inhabited Binary64 := ⟨zero false⟩

/-- The number of signed steps, where the infinities lie one past the largest count. -/
def rank? : Binary64 → Option Int
  | finite false n _ => some n
  | finite true n _ => some (-n)
  | infinite false => some limit
  | infinite true => some (-limit)
  | nan => none

/-- Holds of two numbers, neither of them `nan`, whose ranks are so related. -/
def related (r : Int → Int → Bool) (x y : Binary64) : Bool :=
  match x.rank?, y.rank? with
  | some i, some j => r i j
  | _, _ => false

def lt (x y : Binary64) : Bool := related (· < ·) x y

def le (x y : Binary64) : Bool := related (· ≤ ·) x y

/-- Equal as numbers: the two zeros are equal, and `nan` differs from itself. -/
def eq (x y : Binary64) : Bool := related (· == ·) x y

/-- The larger of two numbers; `nan` yields to the other. -/
def max (x y : Binary64) : Binary64 :=
  if x == nan then y else if y == nan then x else if lt x y then y else x

def isNegative : Binary64 → Bool
  | finite s _ _ => s
  | infinite s => s
  | nan => false

def negate : Binary64 → Binary64
  | finite s n h => finite (!s) n h
  | infinite s => infinite (!s)
  | nan => nan

def abs : Binary64 → Binary64
  | finite _ n h => finite false n h
  | infinite _ => infinite false
  | nan => nan

end Binary64

end LedgerMatch
