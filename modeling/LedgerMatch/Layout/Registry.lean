import LedgerMatch.Layout.Statement
import LedgerMatch.Text.Quoted

/-!
# The registry of statement readers

Makers of readers are registered under bank codes. A bank without a maker of its own is read by
the one registered as DEFAULT. Registering a code again replaces its maker.
-/

namespace LedgerMatch

/-- Makes the reader for a bank, or refuses to. -/
abbrev ReaderMaker := String → Except Failure StatementReader

namespace ReaderMaker

/-- Makes readers of one layout for any bank. -/
def ofLayout (kind : StatementKind) (layout : StatementLayout) (headerMode : Bool → Bool) :
    ReaderMaker :=
  fun bank => .ok (.ofLayout kind layout headerMode bank)

/-- Makes readers of one kind for any bank. -/
def ofKind (kind : StatementKind) : ReaderMaker := ofLayout kind kind.layout id

/-- Refuses every bank. -/
def refusing : ReaderMaker := fun bank => .error (.undecodable ("factory refused " ++ bank))

end ReaderMaker

/-- The makers by canonical code, the latest registered first. -/
structure Registry where
  makers : List (String × ReaderMaker)

namespace Registry

def empty : Registry := ⟨[]⟩

def register (r : Registry) (code : String) (maker : ReaderMaker) : Registry :=
  ⟨(canonicalBank code, maker) :: r.makers.filter (·.1 != canonicalBank code)⟩

/-- The three layouts under their own codes. -/
def standard : Registry :=
  ((empty.register "BCA" (.ofKind .bca)).register "BNI" (.ofKind .bni)).register "DEFAULT"
    (.ofKind .general)

def contains (r : Registry) (code : String) : Bool := (r.makers.lookup (canonicalBank code)).isSome

/-- The reader for a bank: by its own maker, else by the default one. -/
def reader (r : Registry) (code : String) : Except Failure StatementReader :=
  match (r.makers.lookup (canonicalBank code)).or (r.makers.lookup "DEFAULT") with
  | some maker => maker (canonicalBank code)
  | none => .error (.noReader (canonicalBank code))

/-- The registered codes in the order of texts. -/
def codes (r : Registry) : List String := (r.makers.map (·.1)).mergeSort (· ≤ ·)

/-- One line that lists the registered codes. -/
def summary (r : Registry) : String :=
  "ParserRegistry \x7b banks: [" ++ ", ".intercalate (r.codes.map Text.quoted) ++ "] \x7d"

end Registry

end LedgerMatch
