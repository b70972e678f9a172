import Mathlib.Tactic.Choose
import Scribe.Proofs.Configuration.Usable
import Scribe.Proofs.Settings.Variables

/-!
# What overrides what

The environment overrides the file and the file overrides the defaults, field by field: a variable for
one field leaves the others of its section as they are.

- `Configuration.ofSettings_eq_ok_iff`: settings whose sections are tables are read field by field.
- `given_set`: putting a value at the address of a field changes what is given for this field.
- `given_layer_of_mem`, `given_layer_of_notMem`: the same for the settings of several variables.
- `exists_overridden`: variables for fields give these their values, and the others keep theirs
  (`Overridden`), whatever the order of the variables (`Overridden.of_perm`).
- `load_override`: what is loaded with variables, by what is loaded without.
-/

namespace Scribe

open Files Settings

namespace Configuration

/-! ## Fields -/

/-- The fields of a configuration. -/
inductive Field where
  | endWithNewline
  | unlock
  | createParents
  | dryRun
  | readOnly
  | mode
  | level
  | withTarget
deriving DecidableEq

namespace Field

/-- The section in which a field stands. -/
def sectionName : Field → Text
  | endWithNewline => "document".toList
  | unlock | createParents | dryRun | readOnly | mode => "write".toList
  | level | withTarget => "logging".toList

/-- The name of a field in its section. -/
def name : Field → Text
  | endWithNewline => "end_with_newline".toList
  | unlock => "unlock".toList
  | createParents => "create_parent_directories".toList
  | dryRun => "dry_run".toList
  | readOnly => "read_only".toList
  | mode => "mode".toList
  | level => "level".toList
  | withTarget => "with_target".toList

/-- What messages call a field, which is also its address. -/
def key (f : Field) : Text := f.sectionName ++ '.' :: f.name

/-- The type of a field. -/
abbrev Value : Field → Type
  | endWithNewline | unlock | createParents | dryRun | withTarget => Bool
  | readOnly => Option Bool
  | mode => Option UInt32
  | level => Text

/-- The value of a field. -/
def get : (f : Field) → Configuration → f.Value
  | endWithNewline, c => c.document.endWithNewline
  | unlock, c => c.write.unlock
  | createParents, c => c.write.createParents
  | dryRun, c => c.write.dryRun
  | readOnly, c => c.write.readOnly
  | mode, c => c.write.mode
  | level, c => c.logging.level
  | withTarget, c => c.logging.withTarget

/-- A setting as a value of a field. -/
def convert : (f : Field) → Setting → Except Mismatch f.Value
  | endWithNewline | unlock | createParents | dryRun | withTarget => Setting.toBool
  | readOnly => Setting.optional Setting.toBool
  | mode => Setting.optional Setting.toUInt32
  | level => Setting.toText

end Field

/-- The configuration with a value for each field. -/
def ofValues (value : (f : Field) → f.Value) : Configuration where
  document := { endWithNewline := value .endWithNewline }
  write :=
    { unlock := value .unlock
      createParents := value .createParents
      dryRun := value .dryRun
      readOnly := value .readOnly
      mode := value .mode }
  logging := { level := value .level, withTarget := value .withTarget }

theorem get_ofValues (value : (f : Field) → f.Value) (f : Field) :
    f.get (ofValues value) = value f := by
  cases f <;> rfl

/-- A configuration is what its fields are. -/
theorem ext_get {c d : Configuration} (h : ∀ f : Field, f.get c = f.get d) : c = d := by
  have hvalues : ∀ c : Configuration, ofValues (fun f => f.get c) = c := fun _ => rfl
  rw [← hvalues c, ← hvalues d]
  exact congrArg ofValues (funext h)

/-! ## Settings by field -/

/-- The entries of a section. -/
def sectionEntries (root : Setting) (key : Text) : Entries :=
  match root.entries.get? key with
  | some s => s.entries
  | none => []

/-- What settings give for a field. -/
def Field.given (f : Field) (root : Setting) : Option Setting :=
  (sectionEntries root f.sectionName).get? f.name

/-- Whether a setting is a table. -/
def isTable : Setting → Bool
  | .table _ _ => true
  | _ => false

/-- The sections of settings are tables, as far as they are given. -/
def HasTables (root : Setting) : Prop :=
  ∀ f : Field, ∀ s, root.entries.get? f.sectionName = some s → isTable s = true

/-- The value that settings give for a field, or else its default. -/
def Field.read (f : Field) (root : Setting) : Except ConversionError f.Value :=
  match f.given root with
  | none => .ok (f.get {})
  | some s => (f.convert s).mapError (.mismatch f.key)

/-- A section that is a table is read from its entries, and one that is not given has none. -/
theorem sectionOf_eq {α : Type} {root : Setting} {key type : Text} {default : α}
    {convert : Record → Except ConversionError α}
    (htable : ∀ s, root.entries.get? key = some s → isTable s = true)
    (hdefault : convert (.named key []) = .ok default) :
    sectionOf root.entries key type default convert =
      convert (.named key (sectionEntries root key)) := by
  rw [sectionOf, sectionEntries]
  cases hs : root.entries.get? key with
  | none => exact hdefault.symm
  | some s =>
    have hs := htable s hs
    cases s with
    | table origin entries => rfl
    | scalar origin value => cases hs
    | array origin items => cases hs

/-- The entries of a section as a record. -/
abbrev sectionRecord (root : Setting) (key : Text) : Record := .named key (sectionEntries root key)

section Records

variable {root : Setting}

theorem ofRecord_document_eq_ok_iff {d : DocumentOptions} :
    DocumentOptions.ofRecord (sectionRecord root "document".toList) = .ok d ↔
      Field.read .endWithNewline root = .ok d.endWithNewline := by
  constructor
  · intro h
    obtain ⟨endWithNewline, hread, h⟩ := bind_eq_ok.mp h
    obtain rfl := Except.ok.inj h
    exact hread
  · exact fun hread => bind_eq_ok.mpr ⟨d.endWithNewline, hread, rfl⟩

theorem ofRecord_write_eq_ok_iff {w : WriteSettings} :
    WriteSettings.ofRecord (sectionRecord root "write".toList) = .ok w ↔
      Field.read .unlock root = .ok w.unlock ∧
      Field.read .createParents root = .ok w.createParents ∧
      Field.read .dryRun root = .ok w.dryRun ∧
      Field.read .readOnly root = .ok w.readOnly ∧
      Field.read .mode root = .ok w.mode := by
  constructor
  · intro h
    obtain ⟨unlock, hunlock, h⟩ := bind_eq_ok.mp h
    obtain ⟨createParents, hcreateParents, h⟩ := bind_eq_ok.mp h
    obtain ⟨dryRun, hdryRun, h⟩ := bind_eq_ok.mp h
    obtain ⟨readOnly, hreadOnly, h⟩ := bind_eq_ok.mp h
    obtain ⟨mode, hmode, h⟩ := bind_eq_ok.mp h
    obtain rfl := Except.ok.inj h
    exact ⟨hunlock, hcreateParents, hdryRun, hreadOnly, hmode⟩
  · rintro ⟨hunlock, hcreateParents, hdryRun, hreadOnly, hmode⟩
    refine bind_eq_ok.mpr ⟨w.unlock, hunlock, ?_⟩
    refine bind_eq_ok.mpr ⟨w.createParents, hcreateParents, ?_⟩
    refine bind_eq_ok.mpr ⟨w.dryRun, hdryRun, ?_⟩
    refine bind_eq_ok.mpr ⟨w.readOnly, hreadOnly, ?_⟩
    exact bind_eq_ok.mpr ⟨w.mode, hmode, rfl⟩

theorem ofRecord_logging_eq_ok_iff {l : LoggingSettings} :
    LoggingSettings.ofRecord (sectionRecord root "logging".toList) = .ok l ↔
      Field.read .level root = .ok l.level ∧ Field.read .withTarget root = .ok l.withTarget := by
  constructor
  · intro h
    obtain ⟨level, hlevel, h⟩ := bind_eq_ok.mp h
    obtain ⟨withTarget, hwithTarget, h⟩ := bind_eq_ok.mp h
    obtain rfl := Except.ok.inj h
    exact ⟨hlevel, hwithTarget⟩
  · rintro ⟨hlevel, hwithTarget⟩
    exact bind_eq_ok.mpr ⟨l.level, hlevel, bind_eq_ok.mpr ⟨l.withTarget, hwithTarget, rfl⟩⟩

/-- Settings whose sections are tables are read field by field. -/
theorem ofSettings_eq_ok_iff (htables : HasTables root) {c : Configuration} :
    ofSettings root = .ok c ↔ ∀ f : Field, f.read root = .ok (f.get c) := by
  have hdocument : sectionOf root.entries "document".toList "DocumentConfig".toList {}
      DocumentOptions.ofRecord = DocumentOptions.ofRecord (sectionRecord root "document".toList) :=
    sectionOf_eq (htables .endWithNewline) rfl
  have hwrite : sectionOf root.entries "write".toList "WriteConfig".toList {}
      WriteSettings.ofRecord = WriteSettings.ofRecord (sectionRecord root "write".toList) :=
    sectionOf_eq (htables .unlock) rfl
  have hlogging : sectionOf root.entries "logging".toList "LoggingConfig".toList {}
      LoggingSettings.ofRecord = LoggingSettings.ofRecord (sectionRecord root "logging".toList) :=
    sectionOf_eq (htables .level) rfl
  constructor
  · intro h
    obtain ⟨document, hd, h⟩ := bind_eq_ok.mp h
    obtain ⟨write, hw, h⟩ := bind_eq_ok.mp h
    obtain ⟨logging, hl, h⟩ := bind_eq_ok.mp h
    obtain rfl := Except.ok.inj h
    have hendWithNewline := ofRecord_document_eq_ok_iff.mp (hdocument.symm.trans hd)
    obtain ⟨hunlock, hcreateParents, hdryRun, hreadOnly, hmode⟩ :=
      ofRecord_write_eq_ok_iff.mp (hwrite.symm.trans hw)
    obtain ⟨hlevel, hwithTarget⟩ := ofRecord_logging_eq_ok_iff.mp (hlogging.symm.trans hl)
    intro f
    cases f with
    | endWithNewline => exact hendWithNewline
    | unlock => exact hunlock
    | createParents => exact hcreateParents
    | dryRun => exact hdryRun
    | readOnly => exact hreadOnly
    | mode => exact hmode
    | level => exact hlevel
    | withTarget => exact hwithTarget
  · intro h
    have hd := hdocument.trans (ofRecord_document_eq_ok_iff.mpr (h .endWithNewline))
    have hw := hwrite.trans (ofRecord_write_eq_ok_iff.mpr
      ⟨h .unlock, h .createParents, h .dryRun, h .readOnly, h .mode⟩)
    have hl := hlogging.trans (ofRecord_logging_eq_ok_iff.mpr ⟨h .level, h .withTarget⟩)
    exact bind_eq_ok.mpr ⟨c.document, hd, bind_eq_ok.mpr ⟨c.write, hw,
      bind_eq_ok.mpr ⟨c.logging, hl, rfl⟩⟩⟩

end Records

/-! ## Values at fields -/

namespace Field

theorem name_injective {f g : Field} (h : f.name = g.name) : f = g := by
  cases f <;> cases g <;> first | rfl | exact absurd h (by decide)

theorem key_injective {f g : Field} (h : f.key = g.key) : f = g := by
  cases f <;> cases g <;> first | rfl | exact absurd h (by decide)

theorem isLowerName_sectionName (f : Field) : IsLowerName f.sectionName := by
  cases f <;> decide

theorem isLowerName_name (f : Field) : IsLowerName f.name := by
  cases f <;> decide

theorem ofText_key (f : Field) : Address.ofText f.key = .child (.name f.sectionName) f.name := by
  cases f <;> decide

end Field

section Addresses

variable {root : Setting} {f g : Field} {origin : Option Text} {value : Scalar} {es : Entries}

/-- What is put at the address of a field is put at its name, in its section. -/
theorem entries_set (f : Field) (root : Setting) :
    ((Address.ofText f.key).set (.scalar origin value) root).entries =
      root.entries.put f.sectionName
        (let old := ((root.entries.get? f.sectionName).getD .absent).asTable
        old.withEntries (old.entries.put f.name (.scalar origin value))) := by
  rw [f.ofText_key, Address.set, Address.change, Address.changeEntry,
    f.isLowerName_sectionName.lower_eq, Setting.entries_withEntries, Setting.setName,
    f.isLowerName_name.lower_eq]
  intro _ _ htable
  cases htable

/-- A simple value at the address of a field is put into its section, and no other section changes. -/
theorem sectionEntries_set (f : Field) (root : Setting) (key : Text) :
    sectionEntries ((Address.ofText f.key).set (.scalar origin value) root) key =
      if f.sectionName = key then (sectionEntries root key).put f.name (.scalar origin value)
      else sectionEntries root key := by
  rw [sectionEntries, entries_set]
  by_cases hkey : f.sectionName = key
  · -- a section that was not given is made as an empty table first
    subst hkey
    rw [if_pos rfl, Entries.get?_put_self, sectionEntries]
    simp only [Setting.entries_withEntries, Setting.entries_asTable]
    cases root.entries.get? f.sectionName <;> rfl
  · rw [if_neg hkey, Entries.get?_put_of_ne hkey]
    rfl

theorem given_set (f g : Field) (root : Setting) :
    g.given ((Address.ofText f.key).set (.scalar origin value) root) =
      if f = g then some (.scalar origin value) else g.given root := by
  rw [Field.given, sectionEntries_set, Field.given]
  by_cases hfield : f = g
  · subst hfield
    rw [if_pos rfl, if_pos rfl, Entries.get?_put_self]
  · have hname : f.name ≠ g.name := fun h => hfield (Field.name_injective h)
    rw [if_neg hfield]
    split
    · exact Entries.get?_put_of_ne hname _ _
    · rfl

theorem hasTables_set (f : Field) (h : HasTables root) :
    HasTables ((Address.ofText f.key).set (.scalar origin value) root) := by
  intro g s hs
  rw [entries_set] at hs
  by_cases hsection : f.sectionName = g.sectionName
  · rw [hsection, Entries.get?_put_self] at hs
    obtain rfl := Option.some.inj hs
    generalize (root.entries.get? g.sectionName).getD .absent = old
    cases old <;> rfl
  · rw [Entries.get?_put_of_ne hsection] at hs
    exact h g s hs

/-- Entries that are what variables give for fields. -/
def AreForFields (es : Entries) : Prop :=
  ∀ e ∈ es, ∃ (f : Field) (value : Text), e = (f.key, variableSetting value)

theorem AreForFields.of_cons {e : Text × Setting} (h : AreForFields (e :: es)) : AreForFields es :=
  fun e' he' => h e' (List.mem_cons_of_mem e he')

theorem given_layer_of_notMem (hes : AreForFields es) (h : f.key ∉ es.map Prod.fst) :
    f.given (layer es root) = f.given root := by
  induction es generalizing root with
  | nil => rfl
  | cons e es ih =>
    obtain ⟨g, value, rfl⟩ := hes e List.mem_cons_self
    have hne : g ≠ f := by
      rintro rfl
      exact h List.mem_cons_self
    rw [layer_cons, ih hes.of_cons fun hmem => h (List.mem_cons_of_mem _ hmem), variableSetting,
      given_set, if_neg hne]

/-- What is given for a field in a layer is what counts. -/
theorem given_layer_of_mem {s : Setting} (hes : AreForFields es) (hdistinct : (es.map Prod.fst).Nodup)
    (h : (f.key, s) ∈ es) : f.given (layer es root) = some s := by
  induction es generalizing root with
  | nil => cases h
  | cons e es ih =>
    obtain ⟨hfree, hdistinct⟩ := List.nodup_cons.mp hdistinct
    rw [layer_cons]
    rcases List.mem_cons.mp h with rfl | h
    · -- nothing after it is for the same field
      obtain ⟨g, value, heq⟩ := hes _ List.mem_cons_self
      obtain ⟨hkey, rfl⟩ := Prod.mk.inj heq
      rw [given_layer_of_notMem hes.of_cons hfree, variableSetting, given_set, if_pos rfl]
    · exact ih hes.of_cons hdistinct h

theorem hasTables_layer (hes : AreForFields es) (h : HasTables root) : HasTables (layer es root) := by
  induction es generalizing root with
  | nil => exact h
  | cons e es ih =>
    obtain ⟨g, value, rfl⟩ := hes e List.mem_cons_self
    exact ih hes.of_cons (hasTables_set g h)

end Addresses

/-! ## Variables for fields -/

/-- The name of the variable for a field. -/
def Field.variable (group : Text) (f : Field) : Text :=
  group ++ separator ++ (f.sectionName ++ separator ++ f.name)

/-- A name is that of the variable for a field, in ASCII letters of any case. -/
def Field.HasVariable (f : Field) (group name : Text) : Prop :=
  name.map Char.toLower = (f.variable group).map Char.toLower

instance (f : Field) (group name : Text) : Decidable (f.HasVariable group name) :=
  decEq (name.map Char.toLower) ((f.variable group).map Char.toLower)

theorem Field.HasVariable.settingName?_eq {f : Field} {group name : Text}
    (h : f.HasVariable group name) : settingName? group name = some f.key := by
  have hname : (f.sectionName ++ separator ++ f.name).all isLowerNameChar = true := by
    cases f <;> decide
  rw [Settings.settingName?_eq (List.all_eq_true.mp hname) h]
  cases f <;> decide

/-- A name is that of the variable for one field only. -/
theorem Field.HasVariable.unique {f g : Field} {group name : Text} (h : f.HasVariable group name)
    (h' : g.HasVariable group name) : f = g :=
  Field.key_injective (Option.some.inj (h.settingName?_eq.symm.trans h'.settingName?_eq))

theorem Field.HasVariable.settingOf?_eq {f : Field} {group : Text} {v : Text × Text}
    (h : f.HasVariable group v.1) : settingOf? group v = some (f.key, variableSetting v.2) := by
  rw [settingOf?, h.settingName?_eq, Option.map_some]

/-- Variables that count are for different fields, and have values that convert. -/
structure OverridesFields (group : Text) (environment : Environment) : Prop where
  fields : ∀ v ∈ environment, counts group v = true → ∃ f : Field, f.HasVariable group v.1 ∧
    ∃ a, f.convert (variableSetting v.2) = .ok a
  different : (environment.filter (counts group)).Pairwise fun v w =>
    ∀ f : Field, ¬ (f.HasVariable group v.1 ∧ f.HasVariable group w.1)

/-- A configuration is another with the values that variables give for some of the fields. -/
structure Overridden (group : Text) (environment : Environment) (c₀ c : Configuration) : Prop where
  given : ∀ v ∈ environment, ∀ f : Field, f.HasVariable group v.1 →
    f.convert (variableSetting v.2) = .ok (f.get c)
  kept : ∀ f : Field, (∀ v ∈ environment, ¬ f.HasVariable group v.1) → f.get c = f.get c₀

section Variables

variable {group : Text} {environment other : Environment} {c₀ c d : Configuration}

/-- The values that variables give determine the configuration. -/
theorem Overridden.unique (h : Overridden group environment c₀ c)
    (h' : Overridden group environment c₀ d) : c = d := by
  refine ext_get fun f => ?_
  by_cases hf : ∃ v ∈ environment, f.HasVariable group v.1
  · obtain ⟨v, hv, hf⟩ := hf
    exact Except.ok.inj ((h.given v hv f hf).symm.trans (h'.given v hv f hf))
  · have hnone : ∀ v ∈ environment, ¬ f.HasVariable group v.1 := fun v hv h => hf ⟨v, hv, h⟩
    rw [h.kept f hnone, h'.kept f hnone]

theorem Field.HasVariable.counts {f : Field} {v : Text × Text} (h : f.HasVariable group v.1) :
    Settings.counts group v = true :=
  counts_of_settingName? h.settingName?_eq

/-- Neither the order of the variables matters nor those that do not count. -/
theorem OverridesFields.of_perm (h : OverridesFields group environment)
    (hperm : (other.filter (counts group)).Perm (environment.filter (counts group))) :
    OverridesFields group other where
  fields := fun v hv hcounts =>
    h.fields v (List.mem_filter.mp (hperm.mem_iff.mp (List.mem_filter.mpr ⟨hv, hcounts⟩))).1 hcounts
  different := (hperm.pairwise_iff fun hvw f hf => hvw f hf.symm).mpr h.different

theorem Overridden.of_perm (h : Overridden group environment c₀ c)
    (hperm : (other.filter (counts group)).Perm (environment.filter (counts group))) :
    Overridden group other c₀ c := by
  have hmem : ∀ v, ∀ f : Field, f.HasVariable group v.1 → (v ∈ other ↔ v ∈ environment) := by
    intro v f hf
    have hv := hperm.mem_iff (a := v)
    rwa [List.mem_filter, List.mem_filter, and_iff_left hf.counts, and_iff_left hf.counts] at hv
  refine ⟨fun v hv f hf => h.given v ((hmem v f hf).mp hv) f hf, fun f hnone => h.kept f ?_⟩
  exact fun v hv hf => hnone v ((hmem v f hf).mpr hv) hf

/-- What variables give for fields is what they give, in their order. -/
theorem OverridesFields.ofEnvironment_eq (h : OverridesFields group environment) :
    let es := (environment.filter (counts group)).filterMap (settingOf? group)
    ofEnvironment group environment = es ∧ AreForFields es ∧ (es.map Prod.fst).Nodup := by
  have hfield : ∀ v ∈ environment.filter (counts group), ∃ f : Field, f.HasVariable group v.1 := by
    intro v hv
    obtain ⟨hv, hcounts⟩ := List.mem_filter.mp hv
    obtain ⟨f, hf, -⟩ := h.fields v hv hcounts
    exact ⟨f, hf⟩
  have hdistinct : (((environment.filter (counts group)).filterMap (settingOf? group)).map
      Prod.fst).Nodup := by
    rw [List.Nodup, List.pairwise_map, List.pairwise_filterMap]
    refine h.different.imp_of_mem fun {v w} hv hw hvw e he e' he' hkey => ?_
    obtain ⟨f, hf⟩ := hfield v hv
    obtain ⟨g, hg⟩ := hfield w hw
    obtain rfl := Option.some.inj (hf.settingOf?_eq.symm.trans he)
    obtain rfl := Option.some.inj (hg.settingOf?_eq.symm.trans he')
    obtain rfl := Field.key_injective hkey
    exact hvw f ⟨hf, hg⟩
  refine ⟨?_, fun e he => ?_, hdistinct⟩
  · rw [← ofEnvironment_filter]
    exact ofEnvironment_eq_filterMap hdistinct
  · obtain ⟨v, hv, he⟩ := List.mem_filterMap.mp he
    obtain ⟨f, hf⟩ := hfield v hv
    exact ⟨f, v.2, Option.some.inj (he.symm.trans hf.settingOf?_eq)⟩

/-- What a variable for a field gives is converted, in the place of what the file gives. -/
theorem read_of_hasVariable {root : Setting} {v : Text × Text} {f : Field}
    (h : OverridesFields group environment) (hv : v ∈ environment) (hf : f.HasVariable group v.1) :
    ∃ a, f.convert (variableSetting v.2) = .ok a ∧
      f.read (layer (ofEnvironment group environment) root) = .ok a := by
  obtain ⟨heq, hfields, hdistinct⟩ := h.ofEnvironment_eq
  obtain ⟨g, hg, a, ha⟩ := h.fields v hv hf.counts
  obtain rfl := hg.unique hf
  have hmem := List.mem_filterMap.mpr ⟨v, List.mem_filter.mpr ⟨hv, hf.counts⟩, hf.settingOf?_eq⟩
  refine ⟨a, ha, ?_⟩
  rw [Field.read, heq, given_layer_of_mem hfields hdistinct hmem]
  simp only [ha]
  rfl

/-- A field without a variable is read as without the environment. -/
theorem read_of_no_variable {root : Setting} {f : Field} (h : OverridesFields group environment)
    (hnone : ∀ v ∈ environment, ¬ f.HasVariable group v.1) :
    f.read (layer (ofEnvironment group environment) root) = f.read root := by
  obtain ⟨heq, hfields, -⟩ := h.ofEnvironment_eq
  rw [Field.read, Field.read, heq, given_layer_of_notMem hfields]
  intro hmem
  obtain ⟨e, he, hkey⟩ := List.mem_map.mp hmem
  obtain ⟨v, hv, hsome⟩ := List.mem_filterMap.mp he
  obtain ⟨hv, hcounts⟩ := List.mem_filter.mp hv
  obtain ⟨g, hg, -⟩ := h.fields v hv hcounts
  obtain rfl := Option.some.inj (hg.settingOf?_eq.symm.trans hsome)
  obtain rfl := Field.key_injective hkey
  exact hnone v hv hg

/-- The file and the environment together give what the file gives, with the values of the
variables. -/
theorem exists_overridden {file : Entries} (htables : HasTables (layer file .emptyTable))
    (hbase : ofLayers file [] = .ok c₀) (h : OverridesFields group environment) :
    ∃ c, ofLayers file (ofEnvironment group environment) = .ok c ∧
      Overridden group environment c₀ c := by
  have hread := (ofSettings_eq_ok_iff htables).mp hbase
  have hvalues : ∀ f : Field, ∃ a, f.read
      (layer (ofEnvironment group environment) (layer file .emptyTable)) = .ok a := by
    intro f
    by_cases hf : ∃ v ∈ environment, f.HasVariable group v.1
    · obtain ⟨v, hv, hf⟩ := hf
      obtain ⟨a, -, ha⟩ := read_of_hasVariable h hv hf
      exact ⟨a, ha⟩
    · exact ⟨f.get c₀, by rw [read_of_no_variable h fun v hv h => hf ⟨v, hv, h⟩, hread f]⟩
  -- the fields are read independently, so that any values that they have make a configuration
  choose value hvalue using hvalues
  have htables' : HasTables
      (layer (ofEnvironment group environment) (layer file .emptyTable)) := by
    obtain ⟨heq, hfields, -⟩ := h.ofEnvironment_eq
    rw [heq]
    exact hasTables_layer hfields htables
  refine ⟨ofValues value, (ofSettings_eq_ok_iff htables').mpr fun f => ?_, ⟨?_, ?_⟩⟩
  · rw [hvalue, get_ofValues]
  · intro v hv f hf
    obtain ⟨a, hconvert, ha⟩ := read_of_hasVariable h hv hf
    rw [hconvert, get_ofValues]
    exact congrArg Except.ok (Except.ok.inj (ha.symm.trans (hvalue f)))
  · intro f hnone
    have hsame := (read_of_no_variable h hnone).symm.trans (hvalue f)
    rw [get_ofValues]
    exact Except.ok.inj (hsame.symm.trans (hread f))

end Variables

end Configuration

namespace ConfigurationStore

open Scribe.Configuration

/-- Variables override what the file gives, field by field. If the sections that the file gives are
tables, and `c₀` is loaded without variables that count, then with variables for some of the fields the
same is loaded with their values, or what is wrong with that is reported. What is given neither by the
file nor by a variable is as by default, and neither the order of the variables matters nor those that
do not count. -/
theorem load_override {s : ConfigurationStore} {environment plain : Environment}
    {faults : Script.Faults} {n : Nat} {t : Tree} {file : Entries} {c₀ : Configuration}
    (hfile : ((ExceptT.run s.readSettings).runFaulty faults n t).result = .ok file)
    (htables : HasTables (layer file .emptyTable))
    (hplain : ∀ v ∈ plain, ¬ startOf s.group <+: v.1.lower)
    (hbase : ((ExceptT.run (s.load plain)).runFaulty faults n t).result = .ok c₀)
    (henvironment : OverridesFields s.group environment) :
    let loaded := fun environment =>
      ((ExceptT.run (s.load environment)).runFaulty faults n t).result
    ∃ c, loaded environment = c.checked ∧ Overridden s.group environment c₀ c ∧
      (∀ f : Field, (∀ v ∈ environment, ¬ f.HasVariable s.group v.1) →
        f.given (layer file .emptyTable) = none → f.get c = f.get {}) ∧
      ∀ other : Environment,
        (other.filter (counts s.group)).Perm (environment.filter (counts s.group)) →
        loaded other = loaded environment := by
  intro loaded
  have hloaded : ∀ environment,
      loaded environment = Configuration.ofSources file (ofEnvironment s.group environment) := by
    intro environment
    have hresult := result_load s environment faults n t
    rwa [hfile] at hresult
  have hbase' : ofLayers file [] = .ok c₀ := by
    have hplain' : ofEnvironment s.group plain = [] :=
      ofEnvironment_eq_nil fun v hv => by rw [← startOf_eq]; exact hplain v hv
    have hplainLoaded := hloaded plain
    rw [hplain'] at hplainLoaded
    exact (ofSources_eq_ok_iff.mp (hplainLoaded.symm.trans hbase)).1
  have hoverridden : ∀ environment, OverridesFields s.group environment → ∃ c,
      loaded environment = c.checked ∧ Overridden s.group environment c₀ c := by
    intro environment h
    obtain ⟨c, hlayers, hc⟩ := exists_overridden htables hbase' h
    exact ⟨c, by rw [hloaded, ofSources, hlayers], hc⟩
  obtain ⟨c, hc, hoverride⟩ := hoverridden environment henvironment
  refine ⟨c, hc, hoverride, fun f hnone hgiven => ?_, fun other hperm => ?_⟩
  · have hread := (ofSettings_eq_ok_iff htables).mp hbase' f
    rw [Field.read, hgiven] at hread
    rw [hoverride.kept f hnone]
    exact (Except.ok.inj hread).symm
  · -- the other variables override the same fields with the same values
    obtain ⟨d, hd, hoverride'⟩ := hoverridden other (henvironment.of_perm hperm)
    rw [hd, hc, hoverride'.unique (hoverride.of_perm hperm)]

/-- A file that keeps read-only files locked. -/
def lockedTree : Tree :=
  Tree.empty.set ["c.toml".toList] (.file 0o644 (Text.utf8 "[write]\nunlock = false\n".toList))

/-- What is read of this file. -/
abbrev lockedRead : Except ConfigurationError Entries :=
  ((ExceptT.run (readSettings { path := "c.toml".toList })).runFaulty (fun _ _ _ => none) 0
    lockedTree).result

/-- The settings that it gives. -/
abbrev lockedFile : Entries := lockedRead.toOption.getD []

theorem lockedRead_eq : lockedRead = .ok lockedFile := by
  have hok : lockedRead.isOk = true := by decide +kernel
  rw [lockedFile]
  generalize lockedRead = r at hok ⊢
  cases r with
  | ok file => rfl
  | error e => cases hok

theorem hasTables_lockedFile : HasTables (layer lockedFile .emptyTable) := by
  have htables : ∀ e ∈ (layer lockedFile .emptyTable).entries, isTable e.2 = true := by
    decide +kernel
  exact fun f s hs => htables _ (Entries.mem_of_get? hs)

/-- A mode, in a variable whose name is written in letters of both cases. -/
def modeVariable : Text × Text := ("Filegen__Write__MODE".toList, "416".toList)

/-- A log level. -/
def levelVariable : Text × Text := ("FILEGEN__LOGGING__LEVEL".toList, "DEBUG".toList)

/-- A variable that does not count. -/
def otherVariable : Text × Text := ("FILEGEN_WRITE".toList, "x".toList)

theorem hasVariable_mode : Field.mode.HasVariable "FILEGEN".toList modeVariable.1 := by decide

theorem hasVariable_level : Field.level.HasVariable "FILEGEN".toList levelVariable.1 := by decide

theorem convert_mode : Field.mode.convert (variableSetting modeVariable.2) = .ok (some 0o640) := by
  decide +kernel

theorem convert_level :
    Field.level.convert (variableSetting levelVariable.2) = .ok "DEBUG".toList := by
  decide +kernel

theorem filter_variables : [modeVariable, otherVariable, levelVariable].filter
    (counts "FILEGEN".toList) = [modeVariable, levelVariable] := by
  have hother : ¬ counts "FILEGEN".toList otherVariable = true := by decide +kernel
  rw [List.filter_cons_of_pos hasVariable_mode.counts, List.filter_cons_of_neg hother,
    List.filter_cons_of_pos hasVariable_level.counts, List.filter_nil]

theorem overridesFields_variables :
    OverridesFields "FILEGEN".toList [modeVariable, otherVariable, levelVariable] where
  fields := by
    intro v hv hcounts
    have hmem := List.mem_filter.mpr ⟨hv, hcounts⟩
    rw [filter_variables] at hmem
    simp only [List.mem_cons, List.not_mem_nil, or_false] at hmem
    rcases hmem with rfl | rfl
    · exact ⟨.mode, hasVariable_mode, _, convert_mode⟩
    · exact ⟨.level, hasVariable_level, _, convert_level⟩
  different := by
    rw [filter_variables]
    refine List.pairwise_pair.mpr fun f ⟨hmode, hlevel⟩ => ?_
    exact absurd ((hasVariable_mode.unique hmode).trans (hasVariable_level.unique hlevel).symm)
      (by decide)

theorem mode_and_level_overridden :
    ∃ c : Configuration,
      (loadRun [modeVariable, otherVariable, levelVariable] lockedTree).result = c.checked ∧
      c.write.mode = some 0o640 ∧ c.logging.level = "DEBUG".toList ∧ c.write.unlock = false ∧
      c.write.createParents = false ∧
      (loadRun [levelVariable, modeVariable] lockedTree).result = c.checked := by
  have hbase : (loadRun [] lockedTree).result = .ok { write := { unlock := false } } := by
    decide +kernel
  obtain ⟨c, hc, hoverridden, -, horder⟩ := load_override lockedRead_eq hasTables_lockedFile
    (List.forall_mem_nil _) hbase overridesFields_variables
  have hmode := hoverridden.given modeVariable (by decide) .mode hasVariable_mode
  have hlevel := hoverridden.given levelVariable (by decide) .level hasVariable_level
  have hswapped := horder [levelVariable, modeVariable] (by
    rw [filter_variables, List.filter_cons_of_pos hasVariable_level.counts,
      List.filter_cons_of_pos hasVariable_mode.counts]
    exact List.Perm.swap _ _ _)
  refine ⟨c, hc, ?_, ?_, hoverridden.kept .unlock (by decide),
    hoverridden.kept .createParents (by decide), hswapped.trans hc⟩
  · exact (Except.ok.inj (convert_mode.symm.trans hmode)).symm
  · exact (Except.ok.inj (convert_level.symm.trans hlevel)).symm

end ConfigurationStore

end Scribe
