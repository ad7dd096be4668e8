import LedgerMatch.Staging.Area

/-!
# Calls on a staging area

A call is an operation together with what it was asked to do. An area can be made to refuse one
kind of call.
-/

namespace LedgerMatch

/-- The operations of a staging area. -/
inductive StagingOperation where
  | prepare
  | importEntries
  | importLines
  | matchAmounts
  | summary
  | matched
  | openEntries
  | openLines
  | discard
  | close
  deriving DecidableEq, Repr

/-- An operation and the sizes it was called with. -/
inductive StagingCall where
  | importEntries (records chunks : Nat)
  | importLines (records chunks : Nat)
  | matchAmounts (smallest largest : Amount) (buckets : Nat)
  | plain (operation : StagingOperation)
  deriving DecidableEq

namespace StagingOperation

def name : StagingOperation → String
  | prepare => "pre"
  | importEntries => "import_system_trx"
  | importLines => "import_bank_trx"
  | matchAmounts => "generate_reconciliation_map"
  | summary => "get_reconciliation_summary"
  | matched => "get_matched_trx"
  | openEntries => "get_not_matched_system_trx"
  | openLines => "get_not_matched_bank_trx"
  | discard => "post"
  | close => "close"

def all : List StagingOperation :=
  [prepare, importEntries, importLines, matchAmounts, summary, matched, openEntries, openLines,
    discard, close]

/-- The operation with a name. -/
def ofName? (s : String) : Option StagingOperation := all.find? (·.name == s)

end StagingOperation

namespace StagingCall

def operation : StagingCall → StagingOperation
  | importEntries .. => .importEntries
  | importLines .. => .importLines
  | matchAmounts .. => .matchAmounts
  | plain operation => operation

/-- The call as it is noted in a trace. -/
def text (c : StagingCall) : String :=
  match c with
  | importEntries records chunks =>
      c.operation.name ++ "(" ++ toString records ++ ", " ++ toString chunks ++ ")"
  | importLines records chunks =>
      c.operation.name ++ "(" ++ toString records ++ ", " ++ toString chunks ++ ")"
  | matchAmounts smallest largest buckets =>
      c.operation.name ++ "(" ++ smallest.text ++ ", " ++ largest.text ++ ", " ++ toString buckets
        ++ ")"
  | plain operation => operation.name

end StagingCall

/-- An area that refuses one operation before it does anything. -/
structure RefusingArea (σ : Type) where
  area : σ
  refused : Option StagingOperation

namespace RefusingArea

variable {σ α : Type}

/-- Runs an operation unless it is the refused one. -/
def guarded (a : RefusingArea σ) (operation : StagingOperation) (op : σ → Except Failure α × σ) :
    Except Failure α × RefusingArea σ :=
  if a.refused = some operation then (.error (.undecodable (operation.name ++ " failed")), a)
  else
    let (result, area) := op a.area
    (result, { a with area })

instance [StagingArea σ] : StagingArea (RefusingArea σ) where
  prepare a w := a.guarded .prepare (StagingArea.prepare · w)
  importEntries a entries chunks :=
    a.guarded .importEntries (StagingArea.importEntries · entries chunks)
  importLines a lines chunks := a.guarded .importLines (StagingArea.importLines · lines chunks)
  matchAmounts a smallest largest buckets :=
    a.guarded .matchAmounts (StagingArea.matchAmounts · smallest largest buckets)
  summary a := a.guarded .summary StagingArea.summary
  matched a := a.guarded .matched StagingArea.matched
  openEntries a := a.guarded .openEntries StagingArea.openEntries
  openLines a := a.guarded .openLines StagingArea.openLines
  discard a := a.guarded .discard StagingArea.discard
  close a := a.guarded .close StagingArea.close

end RefusingArea

end LedgerMatch
