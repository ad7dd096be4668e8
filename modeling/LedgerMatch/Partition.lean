import LedgerMatch.Binary64.Arithmetic

/-!
# Partitions

Staging works through records in chunks of near-equal size, and through amounts in half-open
buckets, the last of which has no end.
-/

namespace LedgerMatch

/-! ### Chunks of records -/

/-- Consecutive ranges of the given sizes. -/
def rangesOfSizes (start : Nat) : List Nat → List (Nat × Nat)
  | [] => []
  | size :: sizes => (start, start + size) :: rangesOfSizes (start + size) sizes

/-- The sizes of the non-empty parts of a length: those that take the remainder come first. -/
def partSizes (length parts : Nat) : List Nat :=
  if length < parts then List.replicate length 1
  else List.replicate (length % parts) (length / parts + 1) ++
    List.replicate (parts - length % parts) (length / parts)

/-- Divides a length into at most so many consecutive non-empty ranges of near-equal size. -/
def indexRanges (length parts : Nat) : List (Nat × Nat) :=
  rangesOfSizes 0 (partSizes length (Nat.max parts 1))

/-- The records of a range. -/
def slice {α : Type} (records : List α) (range : Nat × Nat) : List α :=
  (records.drop range.1).take (range.2 - range.1)

/-! ### Buckets of amounts -/

/-- The numbers from a lower bound on, below an upper bound. -/
structure AmountBucket where
  lower : Binary64
  upper : Binary64
  deriving DecidableEq

namespace AmountBucket

def contains (b : AmountBucket) (x : Binary64) : Bool := b.lower.le x && x.lt b.upper

end AmountBucket

/-- The width of each of so many buckets from a smallest to one past a largest number. -/
def bucketWidth (smallest largest : Binary64) (parts : Nat) : Binary64 :=
  (Binary64.max largest smallest + .ofNat 1 - smallest) / .ofNat parts

/-- The lower bound of the bucket with the given number. -/
def bucketBound (smallest width : Binary64) (i : Nat) : Binary64 := smallest + width * .ofNat i

/-- Divides the numbers from a smallest one on into so many buckets, at least one. -/
def amountBuckets (smallest largest : Binary64) (parts : Nat) : List AmountBucket :=
  let parts := Nat.max parts 1
  let width := bucketWidth smallest largest parts
  (List.range parts).map fun i =>
    ⟨bucketBound smallest width i,
      if i + 1 = parts then .infinite false else bucketBound smallest width (i + 1)⟩

end LedgerMatch
