import LedgerMatch.Ini
import LedgerMatch.Json.Relaxed
import LedgerMatch.Ron
import LedgerMatch.Text.Bytes
import LedgerMatch.Toml.Reader
import LedgerMatch.Yaml.Block

/-!
# Settings files

A settings file is written in one of several formats, which its extension tells. Whatever the format,
the file as a whole is a table of settings.
-/

namespace LedgerMatch

inductive SettingsFormat where
  | toml
  | json
  | yaml
  | ini
  | ron
  | relaxedJson
  deriving DecidableEq, Repr

/-- A settings file by its format and content. -/
structure SettingsFile where
  format : SettingsFormat
  content : Bytes
  deriving DecidableEq

namespace SettingsFormat

/-- The extensions of settings files and their formats. -/
def extensions : List (String × SettingsFormat) :=
  [("toml", toml), ("json", json), ("yaml", yaml), ("yml", yaml), ("ini", ini), ("ron", ron),
    ("json5", relaxedJson)]

/-- Reads a document that is a table. -/
def fields? (format : SettingsFormat) (s : String) : Option (List (String × Value)) :=
  let table? : Value → Option (List (String × Value))
    | .table fields => some fields
    | _ => none
  match format with
  | toml => Toml.document? s
  | json => (Json.document? s).bind table?
  | yaml => (Yaml.document? s).bind table?
  | ini => Ini.document? s
  | ron => (Ron.document? s).bind table?
  | relaxedJson => (Json.Relaxed.document? s).bind table?

end SettingsFormat

namespace Value

mutual

/-- Whole numbers past the greatest of 64 bits with a sign are taken as real numbers. -/
def narrow : Value → Value
  | .integer n => if Text.integerMax < n then .real (.ofNat n.toNat) else .integer n
  | .list values => .list (narrowAll values)
  | .table fields => .table (narrowFields fields)
  | v => v

def narrowAll : List Value → List Value
  | [] => []
  | v :: rest => v.narrow :: narrowAll rest

def narrowFields : List (String × Value) → List (String × Value)
  | [] => []
  | (name, v) :: rest => (name, v.narrow) :: narrowFields rest

end

end Value

namespace SettingsFile

/-- The settings of a file. What is not text in it is marked, and a byte order mark is passed over. -/
def fields? (file : SettingsFile) : Option (List (String × Value)) :=
  (file.format.fields? (String.ofList (Text.decodeMarked (Text.dropMark file.content)))).map
    Value.narrowFields

end SettingsFile

end LedgerMatch
