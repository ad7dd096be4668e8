import LedgerMatch.Text.Letter
import LedgerMatch.Text.Split

/-!
# Paths

A path is a text whose parts are divided by slashes. Paths are compared by their components: empty
parts and dots inside a path do not count, but a dot at its front does.
-/

namespace LedgerMatch

/-- A component of a path. -/
inductive PathComponent where
  | root
  | current
  | parent
  | name (s : String)
  deriving DecidableEq, Repr

namespace PathComponent

/-- Components are ordered by kind, names among themselves by their characters. -/
def rank : PathComponent → Nat × String
  | root => (0, "")
  | current => (1, "")
  | parent => (2, "")
  | name s => (3, s)

/-- Strictly before in the order of components. -/
def lt (a b : PathComponent) : Bool :=
  a.rank.1 < b.rank.1 || (a.rank.1 == b.rank.1 && a.rank.2 < b.rank.2)

/-- The component of a part that is not at the front of a path. -/
def ofPart? (part : List Char) : Option PathComponent :=
  if part = [] ∨ part = ['.'] then none
  else if part = ['.', '.'] then some parent
  else some (name (String.ofList part))

end PathComponent

/-- A path as it is written. -/
structure Path where
  text : String
  deriving DecidableEq, Repr

namespace Path

/-- The components of a written path. -/
def componentsOf (cs : List Char) : List PathComponent :=
  match cs with
  | [] => []
  | '/' :: rest => .root :: (Text.cut (· == '/') rest).filterMap PathComponent.ofPart?
  | _ =>
      match Text.cut (· == '/') cs with
      | ['.'] :: parts => .current :: parts.filterMap PathComponent.ofPart?
      | parts => parts.filterMap PathComponent.ofPart?

def components (p : Path) : List PathComponent := componentsOf p.text.toList

/-- Lexicographic order of component lists. -/
def ltComponents : List PathComponent → List PathComponent → Bool
  | _, [] => false
  | [], _ :: _ => true
  | a :: as, b :: bs => a.lt b || (a == b && ltComponents as bs)

/-- Paths with the same components. -/
def same (p q : Path) : Bool := p.components == q.components

/-- Strictly before in the order of paths. -/
def lt (p q : Path) : Bool := ltComponents p.components q.components

/-- A path that equals a root or lies below it. -/
def isBelow (p root : Path) : Bool := root.components.isPrefixOf p.components

def isAbsolute (p : Path) : Bool := p.text.toList.head? == some '/'

/-- A path inside a directory; an absolute path stands for itself. -/
def join (dir file : Path) : Path :=
  if file.isAbsolute then file
  else if dir.text = "" ∨ dir.text.toList.getLast? = some '/' then ⟨dir.text ++ file.text⟩
  else ⟨dir.text ++ "/" ++ file.text⟩

/-- The name of the last component. -/
def fileName? (p : Path) : Option String :=
  match p.components.getLast? with
  | some (.name s) => some s
  | _ => none

/-- What follows the last point of the file name, unless the point is its first character. -/
def extension? (p : Path) : Option String :=
  p.fileName?.bind fun s =>
    let behind := (s.toList.reverse.takeWhile (· != '.')).reverse
    if behind.length + 1 < s.toList.length then some (String.ofList behind) else none

/-- A file whose extension is csv in any letter case. -/
def isCsv (p : Path) : Bool :=
  match p.extension? with
  | some e => Text.sameLetters e "csv"
  | none => false

theorem isBelow_refl (p : Path) : p.isBelow p = true := by simp [isBelow]

end Path

end LedgerMatch
