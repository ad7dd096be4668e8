import LedgerMatch.Entry
import LedgerMatch.Failure

/-!
# Windows

A window is the scope of a run: a first and a last day, both inside, and the banks taken in.
-/

namespace LedgerMatch

structure Window where
  first : Date
  last : Date
  banks : List String
  deriving DecidableEq

namespace Window

/-- A window whose first day is not after its last. -/
def make (first last : Date) (banks : List String) : Except Failure Window :=
  if last < first then .error (.settings (.reversed first last)) else .ok ⟨first, last, banks⟩

/-- The first moment behind the window: midnight after the last day, or of the last day itself if
it is the last of the calendar. -/
def finish (w : Window) : Timestamp := .midnight (w.last.next?.getD w.last)

def containsTime (w : Window) (t : Timestamp) : Bool := .midnight w.first ≤ t ∧ t < w.finish

/-- A day lies inside if its midnight does. -/
def containsDate (w : Window) (d : Date) : Bool := w.containsTime (.midnight d)

/-- A bank is taken in if it is listed, in any letter case. -/
def acceptsBank (w : Window) (bank : String) : Bool := w.banks.any (Text.sameLetters · bank)

def keepsEntry (w : Window) (e : LedgerEntry) : Bool := w.containsTime e.time

def keepsLine (w : Window) (l : StatementLine) : Bool :=
  w.containsDate l.date && w.acceptsBank l.bank

end Window

end LedgerMatch
