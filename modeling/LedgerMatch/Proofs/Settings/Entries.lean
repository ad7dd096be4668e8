import LedgerMatch.Proofs.Settings.Scalars

/-!
# The last variable of a setting counts

Values are put under keys one after the other, so that a value stays where none of the keys behind it
leads to the same setting. Variables come behind the settings file, and a dotenv file only adds
variables of names that have no value yet, behind all others.
-/

namespace LedgerMatch

/-! ### Values under keys -/

namespace Value

/-- Another field is found as before. -/
theorem lookup_setField_of_ne (fields : List (String × Value)) {name other : String} (v : Value)
    (h : other ≠ name) : (setField fields name v).lookup other = fields.lookup other := by
  have hkey : (other == name) = false := beq_false_of_ne h
  have hmap : (fields.map fun e => if e.1 = name then (name, v) else e).lookup other
      = fields.lookup other := by
    induction fields with
    | nil => rfl
    | cons e rest ih =>
        obtain ⟨key, w⟩ := e
        rw [List.map_cons]
        by_cases hname : key = name
        · simp only [hname, if_true, List.lookup_cons, hkey, ih]
        · simp only [hname, if_false, List.lookup_cons, ih]
  unfold setField
  split
  · exact hmap
  · rw [List.lookup_append, List.lookup_cons, hkey]
    simp

/-- The value of a variable is no table, and stands in place of any other. -/
theorem overlay_variableValue (old : Option Value) (key s : String) :
    overlay old (variableValue key s) = variableValue key s := by
  rw [variableValue_eq]
  cases hscalar : scalar? s with
  | none =>
      rw [Option.getD_none, wordsOf]
      split <;> rfl
  | some v =>
      rcases scalar?_cases hscalar with ⟨-, rfl⟩ | ⟨-, rfl⟩ | ⟨n, -, rfl⟩ | ⟨x, -, rfl⟩ <;> rfl

end Value

namespace SettingEntries

variable {setting : String}

theorem lookup_assign_of_ne (entries : SettingEntries) {key : String} (v : Value)
    (h : (SettingKey.ofChars key.toList).name ≠ setting) :
    (entries.assign key v).lookup setting = entries.lookup setting :=
  Value.lookup_setField_of_ne _ _ h.symm

theorem lookup_assignAll_of_ne (entries : SettingEntries) {values : List (String × Value)}
    (h : ∀ e ∈ values, (SettingKey.ofChars e.1.toList).name ≠ setting) :
    (entries.assignAll values).lookup setting = entries.lookup setting := by
  induction values generalizing entries with
  | nil => rfl
  | cons e rest ih =>
      obtain ⟨he, hrest⟩ := List.forall_mem_cons.1 h
      rw [assignAll, List.foldl_cons, ← assignAll, ih _ hrest, lookup_assign_of_ne _ _ he]

/-- The value of a variable is found under the setting that it names. -/
theorem lookup_assign_variable (entries : SettingEntries) (value : String)
    (h : SettingKey.ofChars setting.toList = ⟨setting, []⟩) :
    (entries.assign setting (variableValue setting value)).lookup setting
      = some (variableValue setting value) := by
  rw [assign, h, Value.lookup_setField, Value.putBelow, Value.overlay_variableValue]

end SettingEntries

/-! ### Variables -/

/-- A variable that leads neither to a setting nor to anything below it. -/
def IsAside (setting : String) (v : String × String) : Prop :=
  ∀ key, variableKey? v.1.toList = some key → (SettingKey.ofChars key).name ≠ setting

instance (setting : String) (v : String × String) : Decidable (IsAside setting v) :=
  decidable_of_iff
    (∀ key ∈ (variableKey? v.1.toList).toList, (SettingKey.ofChars key).name ≠ setting)
    (by simp [IsAside])

/-- The last variable that leads to a setting names it as a whole and has a value. -/
def Variables.GiveLast (vars : Variables) (setting value : String) : Prop :=
  ∃ front name back, vars.entries = front ++ (name, value) :: back ∧
    variableKey? name.toList = some setting.toList ∧ ∀ v ∈ back, IsAside setting v

theorem Variables.GiveLast.lookup {vars : Variables} {setting value : String}
    (h : vars.GiveLast setting value) (hsetting : SettingKey.ofChars setting.toList = ⟨setting, []⟩)
    (entries : SettingEntries) :
    (entries.assignAll (vars.entries.filterMap variableSetting?)).lookup setting
      = some (variableValue setting value) := by
  obtain ⟨front, name, back, hentries, hkey, hback⟩ := h
  have hname : variableSetting? (name, value) = some (setting, variableValue setting value) := by
    rw [variableSetting?, hkey]
    simp
  rw [hentries, List.filterMap_append, List.filterMap_cons_some hname, SettingEntries.assignAll,
    List.foldl_append, List.foldl_cons, ← SettingEntries.assignAll, ← SettingEntries.assignAll,
    SettingEntries.lookup_assignAll_of_ne, SettingEntries.lookup_assign_variable _ _ hsetting]
  intro e he
  obtain ⟨v, hv, hset⟩ := List.mem_filterMap.1 he
  obtain ⟨key, hkey, rfl⟩ := Option.map_eq_some_iff.1 hset
  rw [String.toList_ofList]
  exact hback v hv key hkey

/-! ### Dotenv files -/

namespace Environment

/-- Variables that come of others when new ones are added behind them. -/
def AddsTo (vars vars' : Variables) : Prop :=
  ∃ added, vars'.entries = vars.entries ++ added ∧ ∀ v ∈ added, vars.contains v.1 = false

theorem AddsTo.refl (vars : Variables) : AddsTo vars vars := ⟨[], by simp, by simp⟩

theorem AddsTo.trans {vars vars' vars'' : Variables} (h : AddsTo vars vars')
    (h' : AddsTo vars' vars'') : AddsTo vars vars'' := by
  obtain ⟨added, hentries, hnew⟩ := h
  obtain ⟨added', hentries', hnew'⟩ := h'
  refine ⟨added ++ added', by rw [hentries', hentries, List.append_assoc], ?_⟩
  intro v hv
  rcases List.mem_append.1 hv with hfirst | hsecond
  · exact hnew v hfirst
  · have hnone := hnew' v hsecond
    rw [Variables.contains, Option.isSome_eq_false_iff, Option.isNone_iff_eq_none] at hnone ⊢
    rw [Variables.find?, hentries, List.lookup_append, Option.or_eq_none_iff] at hnone
    exact hnone.1

theorem addsTo_setNew (vars : Variables) (name value : String) :
    AddsTo vars (vars.setNew name value) := by
  rw [Variables.setNew]
  split
  · exact .refl vars
  · next hnew =>
      exact ⟨[(name, value)], rfl, by simpa using hnew⟩

theorem addsTo_applyLine? {vars vars' : Variables} {line : List Char}
    (h : applyLine? vars line = some vars') : AddsTo vars vars' := by
  unfold applyLine? at h
  split at h
  · cases h
    exact .refl vars
  · cases h
    exact .refl vars
  · obtain ⟨a, -, rfl⟩ := Option.map_eq_some_iff.1 h
    exact addsTo_setNew vars a.1 a.2

/-- A dotenv file leaves the variables that have a value as they are. -/
theorem addsTo_applyDotenv (vars : Variables) (content : Bytes) :
    AddsTo vars (applyDotenv vars content) := by
  rw [applyDotenv]
  generalize joinLines [] .text (textLines content) = lines
  induction lines generalizing vars with
  | nil => exact .refl vars
  | cons line lines ih =>
      rw [applyLines]
      split
      · next vars' hline => exact (addsTo_applyLine? hline).trans (ih vars')
      · exact .refl vars

end Environment

/-- A dotenv file that adds no variable which leads to a setting leaves the one that gives it the
last. -/
theorem Variables.GiveLast.applyDotenv {vars : Variables} {setting value : String}
    (h : vars.GiveLast setting value) {content : Bytes}
    (haside : ∀ v ∈ (Environment.applyDotenv vars content).entries,
      v ∈ vars.entries ∨ IsAside setting v) :
    (Environment.applyDotenv vars content).GiveLast setting value := by
  obtain ⟨front, name, back, hentries, hkey, hback⟩ := h
  obtain ⟨added, hadded, hnew⟩ := Environment.addsTo_applyDotenv vars content
  refine ⟨front, name, back ++ added, by rw [hadded, hentries]; simp, hkey, ?_⟩
  intro v hv
  rcases List.mem_append.1 hv with hold | hmem
  · exact hback v hold
  · have hin : v ∈ (Environment.applyDotenv vars content).entries := by
      rw [hadded]
      exact List.mem_append_right _ hmem
    refine (haside v hin).resolve_left fun hgiven => ?_
    -- the file has no variable that was there before
    have hnone := hnew v hmem
    rw [Variables.contains, Option.isSome_eq_false_iff, Option.isNone_iff_eq_none,
      Variables.find?, List.lookup_eq_none_iff] at hnone
    exact absurd (hnone v hgiven) (by simp)

end LedgerMatch
