import LedgerMatch.Binary64.Decimal

/-!
# Values of documents

A document is a value of one of seven kinds. The fields of a record are looked up by name in a
table, or by place in a list that holds exactly those fields.
-/

namespace LedgerMatch

inductive Value where
  | null
  | boolean (b : Bool)
  | integer (n : Int)
  | real (x : Binary64)
  | text (s : String)
  | list (values : List Value)
  | table (fields : List (String × Value))
  deriving Inhabited

namespace Value

/-- The value of a text. -/
def text? : Value → Option String
  | text s => some s
  | _ => none

/-- The texts of a list that holds nothing else. -/
def texts? : Value → Option (List String)
  | list values => values.mapM text?
  | _ => none

/-- The values of the fields with the given names, in their order. Other fields of a table are
passed over. -/
def fields? (names : List String) : Value → Option (List Value)
  | table fields => names.mapM fun name => fields.lookup name
  | list values => if values.length = names.length then some values else none
  | _ => none

/-- Sets a field, in place of an earlier one of its name. -/
def setField (fields : List (String × Value)) (name : String) (v : Value) :
    List (String × Value) :=
  if (fields.lookup name).isSome then fields.map fun e => if e.1 = name then (name, v) else e
  else fields ++ [(name, v)]

/-- Collects fields of which the last of a name counts. -/
def collectFields (fields : List (String × Value)) : List (String × Value) :=
  fields.foldl (fun known f => setField known f.1 f.2) []

theorem lookup_map {fields : List (String × Value)} {name : String} (v : Value)
    (h : (fields.lookup name).isSome) :
    (fields.map fun e => if e.1 = name then (name, v) else e).lookup name = some v := by
  induction fields with
  | nil => cases h
  | cons e rest ih =>
      obtain ⟨key, w⟩ := e
      by_cases hn : key = name
      · simp [hn]
      · have hb : (name == key) = false := by simpa using fun h => hn h.symm
        rw [List.lookup_cons, hb] at h
        simpa [hn, List.lookup_cons, hb] using ih h

theorem lookup_append {fields : List (String × Value)} {name : String} (v : Value)
    (h : fields.lookup name = none) : (fields ++ [(name, v)]).lookup name = some v := by
  induction fields with
  | nil => simp
  | cons e rest ih =>
      obtain ⟨key, w⟩ := e
      cases hb : name == key with
      | true => rw [List.lookup_cons, hb] at h; exact absurd h (by simp)
      | false =>
          rw [List.lookup_cons, hb] at h
          simpa [List.lookup_cons, hb] using ih h

/-- A field that was set is found under its name. -/
theorem lookup_setField (fields : List (String × Value)) (name : String) (v : Value) :
    (setField fields name v).lookup name = some v := by
  unfold setField
  split
  · next h => exact lookup_map v h
  · next h => exact lookup_append v (Option.not_isSome_iff_eq_none.1 h)

end Value

end LedgerMatch
