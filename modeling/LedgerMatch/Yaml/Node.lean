import LedgerMatch.Value

/-!
# Nodes in YAML

A node of a document can be given a name, and the name can stand for it later in the document. A name
that was given twice stands for the later node. No two keys of a table are the same.
-/

namespace LedgerMatch.Yaml

inductive Node where
  | scalar (v : Value)
  | list (nodes : List Node)
  | table (fields : List (String × Node))
  | named (name : String) (node : Node)
  | reference (name : String)
  deriving Inhabited

namespace Node

/-- A node that may be given a name. -/
def withName? (name? : Option String) (node : Node) : Node :=
  match name? with
  | some name => named name node
  | none => node

/-- The values of names, the latest first. -/
abbrev Names := List (String × Value)

mutual

/-- The value of a node, and the names after it. -/
def resolve : Node → Names → Option (Value × Names)
  | scalar v, names => some (v, names)
  | list nodes, names => (resolveAll nodes names).map fun (vs, names) => (.list vs, names)
  | table fields, names => (resolveFields fields names).map fun (vs, names) => (.table vs, names)
  | named name node, names => (resolve node names).map fun (v, names) => (v, (name, v) :: names)
  | reference name, names => (names.lookup name).map fun v => (v, names)

def resolveAll : List Node → Names → Option (List Value × Names)
  | [], names => some ([], names)
  | node :: rest, names =>
      (resolve node names).bind fun (v, names) =>
        (resolveAll rest names).map fun (vs, names) => (v :: vs, names)

def resolveFields : List (String × Node) → Names → Option (List (String × Value) × Names)
  | [], names => some ([], names)
  | (key, node) :: rest, names =>
      (resolve node names).bind fun (v, names) =>
        (resolveFields rest names).bind fun (vs, names) =>
          if (vs.lookup key).isSome then none else some ((key, v) :: vs, names)

end

/-- The value of a whole document. -/
def value? (node : Node) : Option Value := (node.resolve []).map (·.1)

end Node

end LedgerMatch.Yaml
