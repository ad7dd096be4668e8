import LedgerMatch.Value

/-!
# Tables while they are filled

A TOML document fills its tables piece by piece, and how a table came about decides what may be
added to it: a table with a header of its own cannot get another one, a table made by a dotted key
grows by dotted keys only, and a key cannot be given twice.
-/

namespace LedgerMatch.Toml

/-- How a table came about. -/
inductive Origin where
  /-- on the way to a table with a header -/
  | implied
  /-- by a dotted key -/
  | dotted
  /-- by a header of its own -/
  | header
  deriving DecidableEq, Repr

/-- A value, a table, or a list of tables that headers add to. -/
inductive Node where
  | value (v : Value)
  | table (origin : Origin) (fields : List (String × Node))
  | tables (items : List (List (String × Node)))

abbrev Fields := List (String × Node)

namespace Fields

/-- Sets the node under a key, in place of the one that is there. -/
def put (key : String) (n : Node) : Fields → Fields
  | [] => [(key, n)]
  | (k, old) :: rest => if k = key then (k, n) :: rest else (k, old) :: put key n rest

/-- Changes the table under a path. Tables that are missing on the way come about as the origin
says. A dotted path does not enter tables that have a header. -/
def change (origin : Origin) (op : Origin → Fields → Option Fields) :
    List String → Origin → Fields → Option Fields
  | [], own, fields => op own fields
  | key :: path, _, fields =>
      match fields.lookup key with
      | none => (change origin op path origin []).map fun t => put key (.table origin t) fields
      | some (.value _) => none
      | some (.table own t) =>
          if origin = .dotted ∧ own = .header then none
          else (change origin op path own t).map fun t => put key (.table own t) fields
      | some (.tables items) =>
          match items.getLast? with
          | none => none
          | some last =>
              (change origin op path .header last).map fun t =>
                put key (.tables (items.dropLast ++ [t])) fields

/-- Sets a new key to a value, below a dotted path. -/
def insertValue (path : List String) (key : String) (v : Value) (fields : Fields) : Option Fields :=
  change .dotted (fun own fields =>
    if (path ≠ [] ∧ own ≠ .dotted) ∨ (fields.lookup key).isSome then none
    else some (put key (.value v) fields)) path .header fields

/-- Sets a new key to a value, below a dotted path in the table of a header. -/
def insertBelow (header path : List String) (key : String) (v : Value) (fields : Fields) :
    Option Fields :=
  change .implied (fun _ fields => insertValue path key v fields) header .header fields

/-- Opens the table of a header. -/
def openTable (path : List String) (key : String) (fields : Fields) : Option Fields :=
  change .implied (fun _ fields =>
    match fields.lookup key with
    | none => some (put key (.table .header []) fields)
    | some (.table .implied t) => some (put key (.table .header t) fields)
    | some _ => none) path .header fields

/-- Adds a table to the list of tables of a header. -/
def addTable (path : List String) (key : String) (fields : Fields) : Option Fields :=
  change .implied (fun _ fields =>
    match fields.lookup key with
    | none => some (put key (.tables [[]]) fields)
    | some (.tables items) => some (put key (.tables (items ++ [[]])) fields)
    | some _ => none) path .header fields

end Fields

mutual

/-- The value of a node. -/
def Node.toValue : Node → Value
  | .value v => v
  | .table _ fields => .table (fieldValues fields)
  | .tables items => .list (tableValues items)

/-- The values of fields. -/
def fieldValues : List (String × Node) → List (String × Value)
  | [] => []
  | (key, n) :: rest => (key, n.toValue) :: fieldValues rest

/-- The values of tables. -/
def tableValues : List (List (String × Node)) → List Value
  | [] => []
  | fields :: rest => .table (fieldValues fields) :: tableValues rest

end

end LedgerMatch.Toml
