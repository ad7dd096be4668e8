import LedgerMatch.Files.Basic
import LedgerMatch.Window

/-!
# Finding input files

Ledger files are all files below a root whose extension is csv. A statement file lies in a
directory named for its bank, with a further directory or root in front of it.
-/

namespace LedgerMatch

/-- A slash of either kind. -/
def isSlash (c : Char) : Bool := c == '/' || c == '\\'

/-- The letters of the extension of statement files, each in any case; the long s counts as an s. -/
def isStatementExtension : List Char → Bool
  | ['.', c, s, v] =>
      (c == 'c' || c == 'C') && (s == 's' || s == 'S' || s == 'ſ') && (v == 'v' || v == 'V')
  | _ => false

/-- A file name with something in front of its extension. -/
def isStatementName (name : List Char) : Bool :=
  4 < name.length && isStatementExtension (name.drop (name.length - 4))

/-- The bank of a statement file: the part between the last two slashes of its path. -/
def bankCode? (p : Path) : Option String :=
  match (Text.cut isSlash p.text.toList).reverse with
  | name :: code :: _ :: _ =>
      if isStatementName name ∧ code ≠ [] then some (String.ofList code) else none
  | _ => none

/-- A statement file and its bank, written large. -/
structure StatementFile where
  bank : String
  path : Path
  deriving DecidableEq, Repr

/-- The statement file under a path, if its bank is taken in. -/
def StatementFile.ofPath? (w : Window) (p : Path) : Option StatementFile :=
  match bankCode? p with
  | some code => if w.acceptsBank code then some ⟨Text.upper code, p⟩ else none
  | none => none

variable {φ : Type} [FileSystem φ]

/-- The ledger files below a root. -/
def ledgerFiles (fs : φ) (root : Path) : Except Failure (List Path) :=
  match FileSystem.walk fs root with
  | .ok paths => .ok (paths.filter Path.isCsv)
  | .error fault => .error (.file fault)

/-- The statement files below a root whose banks are taken in. -/
def statementFiles (fs : φ) (root : Path) (w : Window) : Except Failure (List StatementFile) :=
  match FileSystem.walk fs root with
  | .ok paths => .ok (paths.filterMap (StatementFile.ofPath? w))
  | .error fault => .error (.file fault)

end LedgerMatch
