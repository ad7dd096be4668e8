import LedgerMatch.Staging.Query

/-!
# Staging areas

What a run needs of the place where records are staged, the area that keeps its tables as a value,
and one in which nothing can be staged. Before it is prepared and after its tables are discarded, an
area has no tables.
-/

namespace LedgerMatch

/-- A place for staging. Operations return its state after them. -/
class StagingArea (σ : Type) where
  /-- replaces whatever is staged by empty tables for a window -/
  prepare : σ → Window → Except Failure Unit × σ
  importEntries : σ → List LedgerEntry → Nat → Except Failure Unit × σ
  importLines : σ → List StatementLine → Nat → Except Failure Unit × σ
  /-- makes pairs of open rows, from a smallest to a largest amount in so many buckets -/
  matchAmounts : σ → Amount → Amount → Nat → Except Failure Unit × σ
  summary : σ → Except Failure Summary × σ
  matched : σ → Except Failure (List MatchedRow) × σ
  openEntries : σ → Except Failure (List OpenEntry) × σ
  openLines : σ → Except Failure (List OpenLine) × σ
  /-- removes the tables -/
  discard : σ → Except Failure Unit × σ
  close : σ → Except Failure Unit × σ

/-- An area that keeps its tables as a value. -/
structure Staging where
  tables : Option Tables
  deriving DecidableEq

namespace Staging

/-- An area without tables. -/
def empty : Staging := ⟨none⟩

def isPrepared (s : Staging) : Bool := s.tables.isSome

/-- Changes the tables. -/
def update (s : Staging) (op : Tables → Except Failure Unit × Tables) :
    Except Failure Unit × Staging :=
  match s.tables with
  | none => (.error .staging, s)
  | some t =>
      let (result, t) := op t
      (result, ⟨some t⟩)

/-- Asks the tables. -/
def query {α : Type} (s : Staging) (op : Tables → Except Failure α) : Except Failure α :=
  match s.tables with
  | none => .error .staging
  | some t => op t

def prepare (_ : Staging) (w : Window) : Staging := ⟨some (.fresh w)⟩

/-- Stages entries; without entries there is nothing to ask of the tables. -/
def importEntries (s : Staging) (entries : List LedgerEntry) (chunks : Nat) :
    Except Failure Unit × Staging :=
  if entries = [] then (.ok (), s) else s.update fun t => t.importEntries entries chunks

/-- Stages lines; without lines there is nothing to ask of the tables. -/
def importLines (s : Staging) (lines : List StatementLine) (chunks : Nat) :
    Except Failure Unit × Staging :=
  if lines = [] then (.ok (), s) else s.update fun t => t.importLines lines chunks

def matchAmounts (s : Staging) (smallest largest : Amount) (buckets : Nat) :
    Except Failure Unit × Staging :=
  s.update fun t => t.matchAmounts smallest largest buckets

def summary (s : Staging) : Except Failure Summary := s.query Tables.summary

def matched (s : Staging) : Except Failure (List MatchedRow) := s.query Tables.matched

def openEntries (s : Staging) : Except Failure (List OpenEntry) := s.query Tables.openEntries

def openLines (s : Staging) : Except Failure (List OpenLine) := s.query Tables.openLines

end Staging

instance : StagingArea Staging where
  prepare s w := (.ok (), s.prepare w)
  importEntries := Staging.importEntries
  importLines := Staging.importLines
  matchAmounts := Staging.matchAmounts
  summary s := (s.summary, s)
  matched s := (s.matched, s)
  openEntries s := (s.openEntries, s)
  openLines s := (s.openLines, s)
  discard _ := (.ok (), .empty)
  close s := (.ok (), s)

/-- An area in which nothing can be staged. -/
inductive LockedArea where
  | locked
  deriving DecidableEq

instance : StagingArea LockedArea where
  prepare s _ := (.error .staging, s)
  importEntries s _ _ := (.error .staging, s)
  importLines s _ _ := (.error .staging, s)
  matchAmounts s _ _ _ := (.error .staging, s)
  summary s := (.error .staging, s)
  matched s := (.error .staging, s)
  openEntries s := (.error .staging, s)
  openLines s := (.error .staging, s)
  discard s := (.error .staging, s)
  close s := (.ok (), s)

end LedgerMatch
