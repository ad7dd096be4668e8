import LedgerMatch.Proofs.Common
import LedgerMatch.Proofs.Settings.Entries

/-!
# Each setting is read from its own name

Settings are read from entries if and only if each of them is, from the value under its own name or from
what stands for a missing one. So a value that is put in place of another one changes the setting of its
name and no other.
-/

namespace LedgerMatch

/-! ### Fields of settings -/

/-- A setting that settings are read from. -/
inductive SettingField where
  | ledgerRoot
  | statementRoot
  | reportRoot
  | banks
  | first
  | last
  | workers
  | hasHeader
  | isDebug
  | clearReports
  | databasePath
  | logLevel
  deriving DecidableEq

namespace SettingField

/-- The name of a setting. -/
def key : SettingField → String
  | ledgerRoot => "system_trx_path"
  | statementRoot => "bank_trx_path"
  | reportRoot => "report_trx_path"
  | banks => "list_bank"
  | first => "from_date"
  | last => "to_date"
  | workers => "number_worker"
  | hasHeader => "has_header"
  | isDebug => "is_debug"
  | clearReports => "is_delete_current_report_directory"
  | databasePath => "db_path"
  | logLevel => "log_level"

theorem key_ne {f g : SettingField} (h : f ≠ g) : f.key ≠ g.key := by
  cases f <;> cases g <;> first | exact absurd rfl h | decide

theorem ofChars_key (f : SettingField) : SettingKey.ofChars f.key.toList = ⟨f.key, []⟩ := by
  cases f <;> decide

/-- The settings that are texts. -/
def texts : List SettingField := [ledgerRoot, statementRoot, reportRoot, databasePath, logLevel]

/-- What settings hold for a setting that is a text. -/
def text? (s : Settings) : SettingField → Option String
  | ledgerRoot => some s.ledgerRoot.text
  | statementRoot => some s.statementRoot.text
  | reportRoot => some s.reportRoot.text
  | databasePath => some s.databasePath.text
  | logLevel => some s.logLevel
  | _ => none

/-- Settings with another text for a setting. -/
def putText (s : Settings) (text : String) : SettingField → Settings
  | ledgerRoot => { s with ledgerRoot := ⟨text⟩ }
  | statementRoot => { s with statementRoot := ⟨text⟩ }
  | reportRoot => { s with reportRoot := ⟨text⟩ }
  | databasePath => { s with databasePath := ⟨text⟩ }
  | logLevel => { s with logLevel := text }
  | _ => s

theorem text?_putText {f : SettingField} (hf : f ∈ texts) (s : Settings) (text : String) :
    f.text? (f.putText s text) = some text := by
  cases f <;> first | rfl | exact absurd hf (by decide)

theorem validate_putText (f : SettingField) (s : Settings) (text : String) :
    (f.putText s text).validate = s.validate := by
  cases f <;> rfl

end SettingField

/-! ### Reading entries -/

namespace Settings

/-- What the value of a setting is read as, or what stands for it where it has none. -/
def ReadsAs {α : Type} (entries : SettingEntries) (f : SettingField) (read : Value → Option α)
    (absent : Option α) (a : α) : Prop :=
  (match entries.lookup f.key with
  | none => absent
  | some v => read v) = some a

/-- What settings hold for a setting is what is read from entries. -/
def FieldReadsAs (processors : Nat) (entries : SettingEntries) (s : Settings) : SettingField → Prop
  | .ledgerRoot => ReadsAs entries .ledgerRoot Value.asPath? none s.ledgerRoot
  | .statementRoot => ReadsAs entries .statementRoot Value.asPath? none s.statementRoot
  | .reportRoot => ReadsAs entries .reportRoot Value.asPath? none s.reportRoot
  | .banks => ReadsAs entries .banks Value.asTexts? none s.banks
  | .first => ReadsAs entries .first Value.asDate? none s.first
  | .last => ReadsAs entries .last Value.asDate? none s.last
  | .workers => ReadsAs entries .workers Value.asCount? (some processors) s.workers
  | .hasHeader => ReadsAs entries .hasHeader Value.asBoolean? (some true) s.hasHeader
  | .isDebug => ReadsAs entries .isDebug Value.asBoolean? (some false) s.isDebug
  | .clearReports => ReadsAs entries .clearReports Value.asBoolean? (some false) s.clearReports
  | .databasePath => ReadsAs entries .databasePath Value.asPath? (some defaultDatabase) s.databasePath
  | .logLevel => ReadsAs entries .logLevel Value.asText? (some "info") s.logLevel

section

variable {α : Type} {entries : SettingEntries} {f : SettingField} {read : Value → Option α}

theorem readsAs_required {a : α} :
    ReadsAs entries f read none a ↔
      ∃ o, optional entries f.key read = .ok o ∧ required f.key o = .ok a := by
  rw [ReadsAs, optional]
  cases entries.lookup f.key with
  | none => simp [required]
  | some v => cases hread : read v <;> simp [hread, required]

theorem readsAs_default {a absent : α} :
    ReadsAs entries f read (some absent) a ↔
      ∃ o, optional entries f.key read = .ok o ∧ o.getD absent = a := by
  rw [ReadsAs, optional]
  cases entries.lookup f.key with
  | none => simp
  | some v => cases hread : read v <;> simp [hread]

end

/-- Settings are read from entries if and only if each of them is. -/
theorem ofEntries_eq_ok_iff {processors : Nat} {entries : SettingEntries} {s : Settings} :
    ofEntries processors entries = .ok s ↔ ∀ f, FieldReadsAs processors entries s f := by
  constructor
  · intro h
    rw [ofEntries] at h
    obtain ⟨ledgerRoot, hledgerRoot, h⟩ := bind_eq_ok.1 h
    obtain ⟨statementRoot, hstatementRoot, h⟩ := bind_eq_ok.1 h
    obtain ⟨reportRoot, hreportRoot, h⟩ := bind_eq_ok.1 h
    obtain ⟨banks, hbanks, h⟩ := bind_eq_ok.1 h
    obtain ⟨first, hfirst, h⟩ := bind_eq_ok.1 h
    obtain ⟨last, hlast, h⟩ := bind_eq_ok.1 h
    obtain ⟨workers, hworkers, h⟩ := bind_eq_ok.1 h
    obtain ⟨hasHeader, hhasHeader, h⟩ := bind_eq_ok.1 h
    obtain ⟨isDebug, hisDebug, h⟩ := bind_eq_ok.1 h
    obtain ⟨clearReports, hclearReports, h⟩ := bind_eq_ok.1 h
    obtain ⟨databasePath, hdatabasePath, h⟩ := bind_eq_ok.1 h
    obtain ⟨logLevel, hlogLevel, h⟩ := bind_eq_ok.1 h
    obtain ⟨_, rledgerRoot, h⟩ := bind_eq_ok.1 h
    obtain ⟨_, rstatementRoot, h⟩ := bind_eq_ok.1 h
    obtain ⟨_, rreportRoot, h⟩ := bind_eq_ok.1 h
    obtain ⟨_, rbanks, h⟩ := bind_eq_ok.1 h
    obtain ⟨_, rfirst, h⟩ := bind_eq_ok.1 h
    obtain ⟨_, rlast, h⟩ := bind_eq_ok.1 h
    cases h
    intro f
    cases f with
    | ledgerRoot => exact readsAs_required.2 ⟨_, hledgerRoot, rledgerRoot⟩
    | statementRoot => exact readsAs_required.2 ⟨_, hstatementRoot, rstatementRoot⟩
    | reportRoot => exact readsAs_required.2 ⟨_, hreportRoot, rreportRoot⟩
    | banks => exact readsAs_required.2 ⟨_, hbanks, rbanks⟩
    | first => exact readsAs_required.2 ⟨_, hfirst, rfirst⟩
    | last => exact readsAs_required.2 ⟨_, hlast, rlast⟩
    | workers => exact readsAs_default.2 ⟨_, hworkers, rfl⟩
    | hasHeader => exact readsAs_default.2 ⟨_, hhasHeader, rfl⟩
    | isDebug => exact readsAs_default.2 ⟨_, hisDebug, rfl⟩
    | clearReports => exact readsAs_default.2 ⟨_, hclearReports, rfl⟩
    | databasePath => exact readsAs_default.2 ⟨_, hdatabasePath, rfl⟩
    | logLevel => exact readsAs_default.2 ⟨_, hlogLevel, rfl⟩
  · intro h
    obtain ⟨_, hledgerRoot, rledgerRoot⟩ := readsAs_required.1 (h .ledgerRoot)
    obtain ⟨_, hstatementRoot, rstatementRoot⟩ := readsAs_required.1 (h .statementRoot)
    obtain ⟨_, hreportRoot, rreportRoot⟩ := readsAs_required.1 (h .reportRoot)
    obtain ⟨_, hbanks, rbanks⟩ := readsAs_required.1 (h .banks)
    obtain ⟨_, hfirst, rfirst⟩ := readsAs_required.1 (h .first)
    obtain ⟨_, hlast, rlast⟩ := readsAs_required.1 (h .last)
    obtain ⟨_, hworkers, rworkers⟩ := readsAs_default.1 (h .workers)
    obtain ⟨_, hhasHeader, rhasHeader⟩ := readsAs_default.1 (h .hasHeader)
    obtain ⟨_, hisDebug, risDebug⟩ := readsAs_default.1 (h .isDebug)
    obtain ⟨_, hclearReports, rclearReports⟩ := readsAs_default.1 (h .clearReports)
    obtain ⟨_, hdatabasePath, rdatabasePath⟩ := readsAs_default.1 (h .databasePath)
    obtain ⟨_, hlogLevel, rlogLevel⟩ := readsAs_default.1 (h .logLevel)
    rw [ofEntries]
    refine bind_eq_ok.2 ⟨_, hledgerRoot, bind_eq_ok.2 ⟨_, hstatementRoot, bind_eq_ok.2
      ⟨_, hreportRoot, bind_eq_ok.2 ⟨_, hbanks, bind_eq_ok.2 ⟨_, hfirst, bind_eq_ok.2 ⟨_, hlast,
      bind_eq_ok.2 ⟨_, hworkers, bind_eq_ok.2 ⟨_, hhasHeader, bind_eq_ok.2 ⟨_, hisDebug,
      bind_eq_ok.2 ⟨_, hclearReports, bind_eq_ok.2 ⟨_, hdatabasePath, bind_eq_ok.2 ⟨_, hlogLevel,
      bind_eq_ok.2 ⟨_, rledgerRoot, bind_eq_ok.2 ⟨_, rstatementRoot, bind_eq_ok.2 ⟨_, rreportRoot,
      bind_eq_ok.2 ⟨_, rbanks, bind_eq_ok.2 ⟨_, rfirst, bind_eq_ok.2 ⟨_, rlast, ?_⟩⟩⟩⟩⟩⟩⟩⟩⟩⟩⟩⟩⟩⟩⟩⟩⟩⟩
    rw [rworkers, rhasHeader, risDebug, rclearReports, rdatabasePath, rlogLevel]
    rfl

/-! ### One setting in place of another -/

section

variable {processors : Nat} {entries : SettingEntries} {s : Settings}

theorem ReadsAs.of_setField {α : Type} {f g : SettingField} {read : Value → Option α}
    {absent : Option α} {a : α} {v : Value}
    (h : ReadsAs (Value.setField entries g.key v) f read absent a) (hne : f ≠ g) :
    ReadsAs entries f read absent a := by
  rwa [ReadsAs, Value.lookup_setField_of_ne _ _ (SettingField.key_ne hne)] at h

/-- What is read for a setting does not depend on the value of another one. -/
theorem FieldReadsAs.of_setField {f g : SettingField} {v : Value}
    (h : FieldReadsAs processors (Value.setField entries g.key v) s f) (hne : f ≠ g) :
    FieldReadsAs processors entries s f := by
  cases f <;> exact ReadsAs.of_setField h hne

theorem fieldReadsAs_putText {f g : SettingField} (hne : f ≠ g) (text : String) :
    FieldReadsAs processors entries (g.putText s text) f
      ↔ FieldReadsAs processors entries s f := by
  cases g <;> cases f <;> first | exact Iff.rfl | exact absurd rfl hne

/-- The text of a scalar is what is read for a setting that is a text. -/
theorem fieldReadsAs_text {f : SettingField} (hf : f ∈ SettingField.texts) {v : Value}
    {text : String} (hlookup : entries.lookup f.key = some v) (htext : v.asText? = some text) :
    FieldReadsAs processors entries (f.putText s text) f := by
  have hpath : v.asPath? = some ⟨text⟩ := by rw [Value.asPath?, htext]; rfl
  cases f <;> first
    | exact absurd hf (by decide)
    | (show ReadsAs _ _ _ _ _; rw [ReadsAs, hlookup]; first | exact hpath | exact htext)

/-- Entries that make settings with some value under a text setting make settings with the text that is
there. -/
theorem ofEntries_text {f : SettingField} (hf : f ∈ SettingField.texts) {v w : Value} {text : String}
    (h : ofEntries processors (Value.setField entries f.key w) = .ok s)
    (hlookup : entries.lookup f.key = some v) (htext : v.asText? = some text) :
    ofEntries processors entries = .ok (f.putText s text) := by
  refine ofEntries_eq_ok_iff.2 fun g => ?_
  by_cases hne : g = f
  · subst hne
    exact fieldReadsAs_text hf hlookup htext
  · exact (fieldReadsAs_putText hne text).2 ((ofEntries_eq_ok_iff.1 h g).of_setField hne)

theorem ofEntries_banks {v w : Value} {codes : List String}
    (h : ofEntries processors (Value.setField entries SettingField.banks.key w) = .ok s)
    (hlookup : entries.lookup SettingField.banks.key = some v) (hcodes : v.asTexts? = some codes) :
    ofEntries processors entries = .ok { s with banks := codes } := by
  refine ofEntries_eq_ok_iff.2 fun g => ?_
  by_cases hne : g = .banks
  · subst hne
    show ReadsAs _ _ _ _ _
    rw [ReadsAs, hlookup]
    exact hcodes
  · have hg := (ofEntries_eq_ok_iff.1 h g).of_setField hne
    cases g <;> first | exact hg | exact absurd rfl hne

/-- A value that is no list of texts is refused, whatever the other settings are. -/
theorem ofEntries_banks_refused {v w : Value}
    (h : ofEntries processors (Value.setField entries SettingField.banks.key w) = .ok s)
    (hlookup : entries.lookup SettingField.banks.key = some v) (hcodes : v.asTexts? = none) :
    ofEntries processors entries = .error (.settings .malformed) := by
  have hread := fun g hne => (ofEntries_eq_ok_iff.1 h g).of_setField hne
  obtain ⟨_, hledger, -⟩ := readsAs_required.1 (hread .ledgerRoot (by decide))
  obtain ⟨_, hstatement, -⟩ := readsAs_required.1 (hread .statementRoot (by decide))
  obtain ⟨_, hreport, -⟩ := readsAs_required.1 (hread .reportRoot (by decide))
  have hbanks : optional entries SettingField.banks.key Value.asTexts?
      = .error (.settings .malformed) := by
    rw [optional, hlookup]
    simp only [hcodes]
  simp only [SettingField.key] at hledger hstatement hreport hbanks
  simp only [ofEntries, hledger, hstatement, hreport, hbanks, bind, Except.bind]

end

end Settings

end LedgerMatch
