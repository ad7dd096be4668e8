import LedgerMatch.Environment.Dotenv
import LedgerMatch.Settings.Basic
import LedgerMatch.Settings.Entries
import LedgerMatch.Settings.File
import LedgerMatch.Settings.Values

/-!
# Loading settings

Settings come from a settings file and from environment variables, to which a dotenv file adds. A
variable wins over the file. Names of settings do not depend on the case of their letters, and
settings that nothing asks for are passed over.
-/

namespace LedgerMatch

/-! ### Environment variables -/

/-- Puts a point in place of each two underscores. -/
def pointUnderscores : List Char → List Char
  | '_' :: '_' :: cs => '.' :: pointUnderscores cs
  | c :: cs => c :: pointUnderscores cs
  | [] => []

/-- How the names of variables that set something begin, in any letter case. -/
def variableMark : List Char := "reconcile__".toList

/-- The key of the setting that a variable sets: what follows the mark in its name, written small,
with points for double underscores. -/
def variableKey? (name : List Char) : Option (List Char) :=
  let small := name.map SettingKey.small
  if variableMark.isPrefixOf small then some (pointUnderscores (small.drop variableMark.length))
  else none

/-- The value that the text of a variable stands for: a truth value or a number if it looks so, a
list if the key asks for one, and else the text itself. -/
def variableValue (key value : String) : Value :=
  if Text.lower value = "true" then .boolean true
  else if Text.lower value = "false" then .boolean false
  else match Text.readSigned 10 value.toList with
    | .ok n => .integer n
    | .error _ =>
        match Binary64.ofText? value with
        | some x => .real x
        | none =>
            if key = "list_bank" then
              .list ((Text.cut (· == ',') value.toList).map fun cs => .text (String.ofList cs))
            else .text value

/-- The setting that a variable sets, if it sets one. -/
def variableSetting? (v : String × String) : Option (String × Value) :=
  (variableKey? v.1.toList).map fun key =>
    (String.ofList key, variableValue (String.ofList key) v.2)

/-! ### From entries to settings -/

namespace Settings

/-- The value of a setting, if it has one. -/
def optional {α : Type} (entries : SettingEntries) (name : String) (read : Value → Option α) :
    Except Failure (Option α) :=
  match entries.lookup name with
  | none => .ok none
  | some v =>
      match read v with
      | some a => .ok (some a)
      | none => .error (.settings .malformed)

/-- A setting that has to have a value. -/
def required {α : Type} (name : String) : Option α → Except Failure α
  | some a => .ok a
  | none => .error (.settings (.missingField name))

/-- Reads settings. A value that does not fit its setting is noticed before a missing one, and of
missing ones the first is named. -/
def ofEntries (processors : Nat) (entries : SettingEntries) : Except Failure Settings := do
  let ledgerRoot ← optional entries "system_trx_path" Value.asPath?
  let statementRoot ← optional entries "bank_trx_path" Value.asPath?
  let reportRoot ← optional entries "report_trx_path" Value.asPath?
  let banks ← optional entries "list_bank" Value.asTexts?
  let first ← optional entries "from_date" Value.asDate?
  let last ← optional entries "to_date" Value.asDate?
  let workers ← optional entries "number_worker" Value.asCount?
  let hasHeader ← optional entries "has_header" Value.asBoolean?
  let isDebug ← optional entries "is_debug" Value.asBoolean?
  let clearReports ← optional entries "is_delete_current_report_directory" Value.asBoolean?
  let databasePath ← optional entries "db_path" Value.asPath?
  let logLevel ← optional entries "log_level" Value.asText?
  pure {
    ledgerRoot := ← required "system_trx_path" ledgerRoot
    statementRoot := ← required "bank_trx_path" statementRoot
    reportRoot := ← required "report_trx_path" reportRoot
    banks := ← required "list_bank" banks
    first := ← required "from_date" first
    last := ← required "to_date" last
    workers := workers.getD processors
    hasHeader := hasHeader.getD true
    isDebug := isDebug.getD false
    clearReports := clearReports.getD false
    databasePath := databasePath.getD defaultDatabase
    logLevel := logLevel.getD "info" }

/-- The entries of a settings file. A missing file has none. -/
def fileEntries : Option SettingsFile → Except Failure (List (String × Value))
  | none => .ok []
  | some file =>
      match file.fields? with
      | some values => .ok values
      | none => .error (.settings .malformed)

/-- Loads settings from a settings file, a dotenv file and variables, and validates them. There are as
many workers as processors unless a setting says otherwise. -/
def load (file : Option SettingsFile) (dotenv : Option Bytes) (vars : Variables)
    (processors : Nat) : Except Failure Settings := do
  let vars := Environment.applyDotenv vars (dotenv.getD [])
  let values ← fileEntries file
  let entries := SettingEntries.assignAll (SettingEntries.assignAll [] values)
    (vars.entries.filterMap variableSetting?)
  let settings ← ofEntries processors entries
  settings.validate
  pure settings

end Settings

end LedgerMatch
