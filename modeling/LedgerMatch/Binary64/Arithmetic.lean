import LedgerMatch.Binary64.Basic

/-!
# Arithmetic on double precision numbers

Each operation computes the exact result as a quotient of steps and rounds it once.
-/

namespace LedgerMatch.Binary64

/-- A count of steps with its sign. -/
def signed (negative : Bool) (steps : Nat) : Int := if negative then -steps else steps

/-- The number nearest to a signed count of steps; a sum that cancels has the given zero. -/
def ofSigned (zeroNegative : Bool) (steps : Int) : Binary64 :=
  if steps = 0 then zero zeroNegative else ofSteps (steps < 0) steps.natAbs 1

def add : Binary64 → Binary64 → Binary64
  | nan, _ => nan
  | _, nan => nan
  | infinite s, infinite t => if s = t then infinite s else nan
  | infinite s, finite _ _ _ => infinite s
  | finite _ _ _, infinite t => infinite t
  | finite s m _, finite t n _ => ofSigned (s && t) (signed s m + signed t n)

def sub (x y : Binary64) : Binary64 := add x (negate y)

def mul : Binary64 → Binary64 → Binary64
  | nan, _ => nan
  | _, nan => nan
  | infinite s, infinite t => infinite (s != t)
  | infinite s, finite t n _ => if n = 0 then nan else infinite (s != t)
  | finite s m _, infinite t => if m = 0 then nan else infinite (s != t)
  | finite s m _, finite t n _ => ofSteps (s != t) (m * n) one

def div : Binary64 → Binary64 → Binary64
  | nan, _ => nan
  | _, nan => nan
  | infinite _, infinite _ => nan
  | infinite s, finite t _ _ => infinite (s != t)
  | finite s _ _, infinite t => zero (s != t)
  | finite s m _, finite t n _ =>
      if n = 0 then if m = 0 then nan else infinite (s != t)
      else ofSteps (s != t) (m * one) n

/-- The nearest whole number, a half away from zero. -/
def round : Binary64 → Binary64
  | finite s n _ => ofFraction s (roundHalfUp n one) 1
  | x => x

instance : Add Binary64 := ⟨add⟩
instance : Sub Binary64 := ⟨sub⟩
instance : Mul Binary64 := ⟨mul⟩
instance : Div Binary64 := ⟨div⟩

/-- The whole number of a count of steps, or `none` where there is a fraction or no number. -/
def toInt? : Binary64 → Option Int
  | finite s n _ => if n % one = 0 then some (signed s (n / one)) else none
  | _ => none

end LedgerMatch.Binary64
