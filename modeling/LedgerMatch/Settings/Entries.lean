import LedgerMatch.Settings.Key
import LedgerMatch.Value

/-!
# Values under keys

Values are put under keys one after the other. A later value stands in place of an earlier one,
except that a table is joined field by field with the table that is there.
-/

namespace LedgerMatch

/-- Values under names, each name once. -/
abbrev SettingEntries := List (String × Value)

namespace Value

/-- The fields of a table; other values have none. -/
def entries : Option Value → SettingEntries
  | some (table fields) => fields
  | _ => []

/-- The values of a list; other values have none. -/
def places : Option Value → List Value
  | some (list values) => values
  | _ => []

mutual

/-- What comes of an earlier value and the one that is put in its place. -/
def overlay (old : Option Value) : Value → Value
  | .table fields => overlayAll (old.getD (.table [])) fields
  | v => v

/-- Puts the fields of a table over a value. -/
def overlayAll (target : Value) : List (String × Value) → Value
  | [] => target
  | (name, v) :: rest =>
      let fields := entries (some target)
      let name := SettingKey.smallText name.toList
      overlayAll (.table (setField fields name (overlay (fields.lookup name) v))) rest

end

/-- Sets a value in a list, which grows by nulls up to its place. A place before the first has no
value. -/
def setPlace (values : List Value) (index : Int) (change : Option Value → Value) : List Value :=
  let n := if 0 ≤ index then index else index + values.length
  if n < 0 then values
  else
    let n := n.toNat
    let padded := values ++ List.replicate (n + 1 - values.length) .null
    padded.set n (change padded[n]?)

/-- Puts a value at the end of the steps that lead away from an earlier one. What is no table or no
list on the way is replaced by one. -/
def putBelow (old : Option Value) (v : Value) : List KeyStep → Value
  | [] => overlay old v
  | .field name :: steps =>
      let fields := entries old
      .table (setField fields name (putBelow (fields.lookup name) v steps))
  | .place index :: steps =>
      .list (setPlace (places old) index fun item => putBelow item v steps)

end Value

namespace SettingEntries

/-- Puts a value under a key. -/
def assign (entries : SettingEntries) (key : String) (v : Value) : SettingEntries :=
  let k := SettingKey.ofChars key.toList
  Value.setField entries k.name (Value.putBelow (entries.lookup k.name) v k.steps)

def assignAll (entries : SettingEntries) (values : List (String × Value)) : SettingEntries :=
  values.foldl (fun entries e => entries.assign e.1 e.2) entries

end SettingEntries

end LedgerMatch
