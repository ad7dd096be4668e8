import LedgerMatch.Proofs.Settings.Fields

/-!
# Settings given by variables

The value under the name that a variable gives is that of the variable, whatever the settings file and
the dotenv file say: lists of bank codes are loaded as they are given, but one code alone that looks like
a scalar is refused, and a text that looks like a scalar is loaded as the scalar is written.
-/

namespace LedgerMatch

namespace Settings

/-! ### Loading -/

/-- The entries of a settings file, with the values of variables put over them. -/
def entriesOf (values : List (String × Value)) (vars : Variables) : SettingEntries :=
  SettingEntries.assignAll (SettingEntries.assignAll [] values)
    (vars.entries.filterMap variableSetting?)

theorem load_eq {file : Option SettingsFile} {values : List (String × Value)}
    (h : fileEntries file = .ok values) (dotenv : Option Bytes) (vars : Variables) (processors : Nat) :
    load file dotenv vars processors
      = (do
          let settings ← ofEntries processors
            (entriesOf values (Environment.applyDotenv vars (dotenv.getD [])))
          settings.validate
          pure settings) := by
  rw [load, h]
  rfl

theorem validate_banks {s : Settings} (h : s.validate = .ok ()) {codes : List String}
    (hcodes : ∃ c ∈ codes, Text.trim c ≠ "") : { s with banks := codes }.validate = .ok () := by
  have hsome : ¬ (codes.all fun c => Text.trim c == "") = true := by
    obtain ⟨c, hc, htrim⟩ := hcodes
    exact fun hall => htrim (beq_iff_eq.1 (List.all_eq_true.1 hall c hc))
  rw [validate] at h ⊢
  split at h
  · cases h
  · next hordered =>
      split at h
      · cases h
      · next hworkers => rw [if_neg hordered, if_neg hworkers, if_neg hsome]

end Settings

/-! ### Values of variables -/

/-- The text that comes of a text that may look like a scalar: the scalar is written again. -/
def rewritten (s : String) : String := ((scalar? s).bind Value.asText?).getD s

/-- A text with a comma, a slash or any other character that scalars do not have stays as it is. -/
theorem rewritten_of_mem {s : String} {c : Char} (hc : isScalarChar c = false) (h : c ∈ s.toList) :
    rewritten s = s := by
  rw [rewritten, scalar?_of_mem hc h]
  rfl

theorem asText?_variableValue {key : String} (h : key ≠ "list_bank") (s : String) :
    (variableValue key s).asText? = some (rewritten s) := by
  rw [variableValue_eq, rewritten, wordsOf, if_neg h]
  cases hscalar : scalar? s with
  | none => rfl
  | some v =>
      obtain ⟨⟨text, htext⟩, -⟩ := scalar?_kind hscalar
      rw [Option.getD_some, Option.bind_some, htext]
      rfl

theorem asTexts?_texts (codes : List String) :
    (Value.list (codes.map .text)).asTexts? = some codes := by
  rw [Value.asTexts?]
  induction codes with
  | nil => rfl
  | cons c rest ih => simp [Value.asText?, ih]

namespace Settings

/-- What is given to the program, when the last variable that leads to a setting names it, the dotenv
file adds no other one, and all other settings are valid. -/
structure GivenBy (file : Option SettingsFile) (dotenv : Option Bytes) (vars : Variables)
    (processors : Nat) (f : SettingField) (value : String) : Prop where
  given : vars.GiveLast f.key value
  aside : ∀ v ∈ (Environment.applyDotenv vars (dotenv.getD [])).entries,
    v ∈ vars.entries ∨ IsAside f.key v
  others : ∃ values w s, fileEntries file = .ok values ∧
    ofEntries processors (Value.setField
      (entriesOf values (Environment.applyDotenv vars (dotenv.getD []))) f.key w) = .ok s ∧
    s.validate = .ok ()

section

variable {file : Option SettingsFile} {dotenv : Option Bytes} {vars : Variables} {processors : Nat}

/-- The value of a variable is what stands under its setting, whatever the two files say. -/
theorem GivenBy.lookup {f : SettingField} {value : String}
    (h : GivenBy file dotenv vars processors f value) (values : List (String × Value)) :
    (entriesOf values (Environment.applyDotenv vars (dotenv.getD []))).lookup f.key
      = some (variableValue f.key value) :=
  (h.given.applyDotenv h.aside).lookup f.ofChars_key _

theorem GivenBy.load_text {f : SettingField} {value : String}
    (h : GivenBy file dotenv vars processors f value) (hf : f ∈ SettingField.texts) :
    ∃ s, load file dotenv vars processors = .ok s ∧ f.text? s = some (rewritten value) := by
  obtain ⟨values, w, s, hfile, hs, hvalid⟩ := h.others
  have hkey : f.key ≠ "list_bank" := by
    cases f <;> first | decide | exact absurd hf (by decide)
  have hread := ofEntries_text hf hs (h.lookup values) (asText?_variableValue hkey value)
  refine ⟨f.putText s (rewritten value), ?_, f.text?_putText hf s _⟩
  rw [load_eq hfile, hread]
  exact bind_eq_ok.2 ⟨_, rfl, bind_eq_ok.2 ⟨(), (f.validate_putText s _).trans hvalid, rfl⟩⟩

theorem GivenBy.load_codes {codes : List String}
    (h : GivenBy file dotenv vars processors .banks (",".intercalate codes)) (hne : codes ≠ [])
    (hcodes : ∀ c ∈ codes, Text.trim c ≠ "" ∧ ',' ∉ c.toList)
    (hscalar : ∀ c, codes = [c] → scalar? c = none) :
    ∃ s, load file dotenv vars processors = .ok s ∧ s.banks = codes := by
  obtain ⟨values, w, s, hfile, hs, hvalid⟩ := h.others
  have hvalue : variableValue SettingField.banks.key (",".intercalate codes)
      = .list (codes.map .text) :=
    variableValue_codes hne (fun c hc => (hcodes c hc).2) hscalar
  have hread := ofEntries_banks hs (h.lookup values) (by rw [hvalue]; exact asTexts?_texts codes)
  obtain ⟨c, hc⟩ := List.exists_mem_of_ne_nil codes hne
  refine ⟨{ s with banks := codes }, ?_, rfl⟩
  rw [load_eq hfile, hread]
  exact bind_eq_ok.2
    ⟨_, rfl, bind_eq_ok.2 ⟨(), validate_banks hvalid ⟨c, hc, (hcodes c hc).1⟩, rfl⟩⟩

/-- A code that looks like a scalar is refused as a list of one. -/
theorem GivenBy.load_scalar {code : String} {v : Value}
    (h : GivenBy file dotenv vars processors .banks code) (hscalar : scalar? code = some v) :
    load file dotenv vars processors = .error (.settings .malformed) := by
  obtain ⟨values, w, s, hfile, hs, -⟩ := h.others
  have hvalue : (variableValue SettingField.banks.key code).asTexts? = none := by
    rw [variableValue_eq, hscalar]
    exact (scalar?_kind hscalar).2
  rw [load_eq hfile, ofEntries_banks_refused hs (h.lookup values) hvalue]
  rfl

/-- Settings that are given by variables: a list of bank codes is loaded as it is unless it is one
code that looks like a scalar, and a text is loaded with the scalar that it looks like written again, so as
it is if it has a character that scalars do not have. -/
theorem load_given_variables (file : Option SettingsFile) (dotenv : Option Bytes) (vars : Variables)
    (processors : Nat) :
    (∀ codes : List String, codes ≠ [] → (∀ c ∈ codes, Text.trim c ≠ "" ∧ ',' ∉ c.toList) →
      GivenBy file dotenv vars processors .banks (",".intercalate codes) →
      ((∃ s, load file dotenv vars processors = .ok s ∧ s.banks = codes) ↔
        ∀ c, codes = [c] → scalar? c = none) ∧
      ∀ c v, codes = [c] → scalar? c = some v →
        load file dotenv vars processors = .error (.settings .malformed)) ∧
    ∀ f ∈ SettingField.texts, ∀ value, GivenBy file dotenv vars processors f value →
      ∃ s, load file dotenv vars processors = .ok s ∧ f.text? s = some (rewritten value) ∧
        ((∃ c ∈ value.toList, isScalarChar c = false) → f.text? s = some value) := by
  refine ⟨fun codes hne hcodes h => ⟨⟨?_, h.load_codes hne hcodes⟩, ?_⟩, fun f hf value h => ?_⟩
  · rintro ⟨s, hs, -⟩ c rfl
    rw [String.intercalate_singleton] at h
    cases hscalar : scalar? c with
    | none => rfl
    | some v =>
        rw [h.load_scalar hscalar] at hs
        cases hs
  · rintro c v rfl hscalar
    rw [String.intercalate_singleton] at h
    exact h.load_scalar hscalar
  · obtain ⟨s, hs, htext⟩ := h.load_text hf
    refine ⟨s, hs, htext, ?_⟩
    rintro ⟨c, hmem, hc⟩
    rw [htext, rewritten_of_mem hc hmem]

end

/-- Variables that give a ledger root, bank codes, and what else has to be given. -/
def someVariables (ledgerRoot banks : String) : Variables :=
  ⟨[("RECONCILE__SYSTEM_TRX_PATH", ledgerRoot), ("RECONCILE__BANK_TRX_PATH", "/in/bank"),
    ("RECONCILE__REPORT_TRX_PATH", "/out"), ("RECONCILE__FROM_DATE", "2025-03-01"),
    ("RECONCILE__TO_DATE", "2025-03-10"), ("RECONCILE__LIST_BANK", banks)]⟩

/-- A settings file and a dotenv file that have other codes. -/
def otherFile : SettingsFile := ⟨.toml, Text.encode "list_bank = [\"bni\"]\n"⟩

def otherDotenv : Bytes := Text.encode "RECONCILE__LIST_BANK=x\nRECONCILE__NUMBER_WORKER=3\n"

/-- Whether the other settings are valid can be computed, with a value in place of the one in
question. -/
theorem others_of_checked {file : Option SettingsFile} {vars : Variables} {processors n : Nat}
    {f : SettingField} (w : Value)
    (h : (do
        let values ← fileEntries file
        let s ← ofEntries processors (Value.setField (entriesOf values vars) f.key w)
        s.validate
        pure s.workers) = .ok n) :
    ∃ values w s, fileEntries file = .ok values ∧
      ofEntries processors (Value.setField (entriesOf values vars) f.key w) = .ok s ∧
      s.validate = .ok () := by
  obtain ⟨values, hvalues, h⟩ := bind_eq_ok.1 h
  obtain ⟨s, hs, h⟩ := bind_eq_ok.1 h
  obtain ⟨_, hvalid, -⟩ := bind_eq_ok.1 h
  exact ⟨values, w, s, hvalues, hs, hvalid⟩

theorem someVariables_giveBanks (ledgerRoot banks : String) :
    (someVariables ledgerRoot banks).GiveLast SettingField.banks.key banks :=
  ⟨(someVariables ledgerRoot banks).entries.dropLast, "RECONCILE__LIST_BANK", [], rfl, by decide,
    by simp⟩

/-- The codes of the variable are loaded, one of which is a row of digits, and so is a path that ends in
digits. -/
theorem someVariables_loaded :
    (GivenBy (some otherFile) (some otherDotenv) (someVariables "/in/007" "bca,014") 2 .banks
        (",".intercalate ["bca", "014"]) ∧
      ∃ s, load (some otherFile) (some otherDotenv) (someVariables "/in/007" "bca,014") 2 = .ok s ∧
        s.banks = ["bca", "014"]) ∧
    GivenBy (some otherFile) (some otherDotenv) (someVariables "/in/007" "bca,014") 2 .ledgerRoot
        "/in/007" ∧
      ∃ s, load (some otherFile) (some otherDotenv) (someVariables "/in/007" "bca,014") 2 = .ok s ∧
        SettingField.text? s .ledgerRoot = some "/in/007" := by
  obtain ⟨hcodes, htexts⟩ := load_given_variables (some otherFile) (some otherDotenv)
    (someVariables "/in/007" "bca,014") 2
  have hbanks : GivenBy (some otherFile) (some otherDotenv) (someVariables "/in/007" "bca,014") 2
      .banks (",".intercalate ["bca", "014"]) := by
    refine ⟨?_, by decide +kernel, others_of_checked (n := 3) (.list [.text "x"]) (by decide +kernel)⟩
    rw [show ",".intercalate ["bca", "014"] = "bca,014" by decide]
    exact someVariables_giveBanks _ _
  have hroot : GivenBy (some otherFile) (some otherDotenv) (someVariables "/in/007" "bca,014") 2
      .ledgerRoot "/in/007" :=
    ⟨⟨[], "RECONCILE__SYSTEM_TRX_PATH", _, rfl, by decide, by decide⟩, by decide +kernel,
      others_of_checked (n := 3) (.text "/x") (by decide +kernel)⟩
  obtain ⟨s, hs, -, hverbatim⟩ := htexts .ledgerRoot (by decide) "/in/007" hroot
  exact ⟨⟨hbanks, (hcodes _ (by decide) (by decide) hbanks).1.2 (by simp)⟩, hroot, s, hs,
    hverbatim ⟨'/', by decide, by decide⟩⟩

/-- A single code of digits is refused, and a path of digits is loaded without its leading zeros. -/
theorem digitCode_refused :
    load none none (someVariables "/in" "014") 2 = .error (.settings .malformed) ∧
    (load none none (someVariables "007" "bca") 2).map Settings.ledgerRoot = .ok ⟨"7"⟩ ∧
    ¬ ∀ file dotenv vars processors codes, codes ≠ [] →
      (∀ c ∈ codes, Text.trim c ≠ "" ∧ ',' ∉ c.toList) →
      GivenBy file dotenv vars processors .banks (",".intercalate codes) →
      ∃ s, load file dotenv vars processors = .ok s ∧ s.banks = codes := by
  have hrefused : load none none (someVariables "/in" "014") 2 = .error (.settings .malformed) := by
    decide +kernel
  refine ⟨hrefused, by decide +kernel, fun hall => ?_⟩
  have hgiven : GivenBy none none (someVariables "/in" "014") 2 .banks (",".intercalate ["014"]) := by
    rw [String.intercalate_singleton]
    exact ⟨someVariables_giveBanks _ _, by decide +kernel,
      others_of_checked (n := 2) (.list [.text "x"]) (by decide +kernel)⟩
  obtain ⟨s, hs, -⟩ := hall none none _ 2 ["014"] (by decide) (by decide) hgiven
  rw [hrefused] at hs
  cases hs

end Settings

end LedgerMatch
