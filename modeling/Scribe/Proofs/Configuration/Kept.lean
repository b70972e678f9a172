import Scribe.Configuration.Store
import Scribe.Proofs.Files.Effect
import Scribe.Proofs.Files.Faultless
import Scribe.Proofs.Settings.Layers

/-!
# Configurations that are kept

A configuration that has been saved is the one that is loaded, whatever its log level looks like, if no
variable of the environment has a say. If it is not valid, this is what loading reports.

- `document?_text`: the text of a configuration is read as its sections.
- `ofLayers_sections`: the settings that they give are those of the configuration. Here the fields are
  converted that may be absent (`ofRecord_write`).
- `write_of_save`: a configuration that was saved is what was written last.
- `yields_load`: loading what was written.
- `load_save`: both.
-/

namespace Scribe

open Files Files.Tree Files.Action Settings

/-! ## Sections -/

/-- A section with some of the keys that it may have. -/
theorem isLowerSection_of_keys {name : Text} {entries : List (Text × Toml.Scalar)} {keys : List Text}
    (hname : IsLowerName name) (hkeys : ∀ k ∈ keys, IsLowerName k) (hdistinct : keys.Nodup)
    (hsub : (entries.map Prod.fst).Sublist keys) (hfits : ∀ e ∈ entries, e.2.Fits) :
    IsLowerSection { name, entries } where
  name := hname
  keys := fun _ he => hkeys _ (hsub.subset (List.mem_map_of_mem he))
  distinct := hdistinct.sublist hsub
  fits := hfits

theorem isWord_toNat (mode : UInt32) : Toml.isWord mode.toNat := by
  have hlt : mode.toNat < 0x100000000 := mode.toNat_lt
  simp only [Toml.isWord, Bool.and_eq_true, decide_eq_true_eq]
  omega

theorem isLowerSection_document (d : DocumentOptions) : IsLowerSection d.toSection := by
  let keys := ["end_with_newline".toList]
  have hkeys : ∀ k ∈ keys, IsLowerName k := by decide
  have hdistinct : keys.Nodup := by decide
  refine isLowerSection_of_keys (by decide) hkeys hdistinct (List.Sublist.refl _) ?_
  simp [Toml.Scalar.Fits]

theorem isLowerSection_write (w : WriteSettings) : IsLowerSection w.toSection := by
  let keys :=
    ["unlock", "create_parent_directories", "dry_run", "read_only", "mode"].map String.toList
  have hkeys : ∀ k ∈ keys, IsLowerName k := by decide
  have hdistinct : keys.Nodup := by decide
  refine isLowerSection_of_keys (by decide) hkeys hdistinct ?_ ?_
  · cases w.readOnly <;> cases w.mode <;> simp [optionalEntry, keys]
  · cases w.readOnly <;> cases w.mode <;> simp [optionalEntry, Toml.Scalar.Fits, isWord_toNat]

theorem isLowerSection_logging (s : LoggingSettings) : IsLowerSection s.toSection := by
  let keys := ["level".toList, "with_target".toList]
  have hkeys : ∀ k ∈ keys, IsLowerName k := by decide
  have hdistinct : keys.Nodup := by decide
  refine isLowerSection_of_keys (by decide) hkeys hdistinct (List.Sublist.refl _) ?_
  simp [Toml.Scalar.Fits]

/-! ## Fields -/

section Fields

variable {key name : Text} {entries : Entries} {position : Nat} {origin : Option Text}

/-- A field that is given has the value that this is converted to. -/
theorem field_given {α : Type} {s : Setting} {convert : Setting → Except Mismatch α} {a : α}
    (hget : entries.get? name = some s) (hconvert : convert s = .ok a) (default : α) :
    (Record.named key entries).field position name default convert = .ok a := by
  rw [Record.field, Record.get?, hget]
  simp only [hconvert]
  rfl

/-- A field that may be absent has the value that is given, or none. -/
theorem field_optional {α : Type} {value : Option α} {toSetting : α → Setting}
    {convert : Setting → Except Mismatch α} (hget : entries.get? name = value.map toSetting)
    (hconvert : ∀ a, Setting.optional convert (toSetting a) = .ok (some a)) :
    (Record.named key entries).field position name none (Setting.optional convert) = .ok value := by
  cases value with
  | none =>
    rw [Record.field, Record.get?, hget]
    rfl
  | some a => exact field_given hget (hconvert a) none

theorem field_boolean {b : Bool} (hget : entries.get? name = some (.scalar origin (.boolean b)))
    (default : Bool) :
    (Record.named key entries).field position name default Setting.toBool = .ok b := by
  have hconvert : Setting.toBool (.scalar origin (.boolean b)) = .ok b := rfl
  exact field_given hget hconvert default

theorem toUInt32_toNat (origin : Option Text) (mode : UInt32) :
    (Setting.scalar origin (.integer mode.toNat)).toUInt32 = .ok mode := by
  have hlt : mode.toNat < 0x100000000 := mode.toNat_lt
  simp [Setting.toUInt32, Setting.toNatural, bind, Except.bind, hlt, pure, Except.pure]

end Fields

/-- The fields of write settings are read from their section, those that may be absent as well. -/
theorem ofRecord_write (w : WriteSettings) (key file : Text) :
    WriteSettings.ofRecord (.named key (fieldsOf file w.toSection)) = .ok w := by
  obtain ⟨unlock, createParents, dryRun, readOnly, mode⟩ := w
  generalize hfields : fieldsOf file (WriteSettings.toSection _) = fields
  have hunlock : fields.get? "unlock".toList = some (.scalar (some file) (.boolean unlock)) := by
    rw [← hfields]
    rfl
  have hcreateParents : fields.get? "create_parent_directories".toList =
      some (.scalar (some file) (.boolean createParents)) := by
    rw [← hfields]
    rfl
  have hdryRun : fields.get? "dry_run".toList = some (.scalar (some file) (.boolean dryRun)) := by
    rw [← hfields]
    rfl
  have hreadOnly : fields.get? "read_only".toList =
      readOnly.map fun b => .scalar (some file) (.boolean b) := by
    rw [← hfields]
    cases readOnly <;> cases mode <;> rfl
  have hmode : fields.get? "mode".toList =
      mode.map fun m => .scalar (some file) (.integer m.toNat) := by
    rw [← hfields]
    cases readOnly <;> cases mode <;> rfl
  have hconvert : ∀ m : UInt32, Setting.optional Setting.toUInt32
      (.scalar (some file) (.integer m.toNat)) = .ok (some m) := by
    intro m
    rw [Setting.optional, toUInt32_toNat]
    · rfl
    · nofun
  rw [WriteSettings.ofRecord, field_boolean hunlock, field_boolean hcreateParents,
    field_boolean hdryRun, field_optional hreadOnly fun _ => rfl, field_optional hmode hconvert]
  rfl

namespace Configuration

/-! ## Documents -/

theorem isLowerSection_of_mem_sections (c : Configuration) :
    ∀ s ∈ c.sections, IsLowerSection s := by
  intro s hs
  simp only [sections, List.mem_cons, List.not_mem_nil, or_false] at hs
  rcases hs with rfl | rfl | rfl
  · exact isLowerSection_document c.document
  · exact isLowerSection_write c.write
  · exact isLowerSection_logging c.logging

theorem nodup_sections (c : Configuration) : (c.sections.map Toml.Section.name).Nodup := by
  show (["document", "write", "logging"].map String.toList).Nodup
  decide

/-- The text of a configuration is read as its sections. -/
theorem document?_text (c : Configuration) :
    Toml.document? c.text = some (c.sections.map Toml.Section.toEntry) :=
  Toml.document?_documentText
    (fun s hs => (c.isLowerSection_of_mem_sections s hs).wellFormed) c.nodup_sections

/-- The settings in the sections of a configuration are its own. -/
theorem ofSettings_fields (c : Configuration) (file : Text) :
    ofSettings (.table none (c.sections.map fun s => (s.name, .table none (fieldsOf file s)))) =
      .ok c := by
  let entries := c.sections.map fun s => (s.name, Setting.table none (fieldsOf file s))
  have hwrite : sectionOf entries "write".toList "WriteConfig".toList {} WriteSettings.ofRecord =
      .ok c.write := ofRecord_write c.write "write".toList file
  simp only [entries] at hwrite
  rw [ofSettings]
  simp only [Setting.entries, hwrite]
  rfl

/-- The settings that a file gives in which a configuration is kept are its own. -/
theorem ofLayers_sections (c : Configuration) (file : Text) :
    ofLayers (ofTable file (c.sections.map Toml.Section.toEntry)) [] = .ok c := by
  have hlayer : layer (ofTable file (c.sections.map Toml.Section.toEntry)) Setting.emptyTable =
      .table none ([] ++ c.sections.map fun s => (s.name, .table none (fieldsOf file s))) :=
    layer_sections file c.isLowerSection_of_mem_sections c.nodup_sections
  rw [ofLayers, hlayer]
  exact c.ofSettings_fields file

end Configuration

namespace ConfigurationStore

variable {s : ConfigurationStore} {c : Configuration} {t u : Tree}

/-! ## Saving -/

/-- A configuration that was saved, with whatever faults, was written last. -/
theorem write_of_save {faults : Script.Faults} {n : Nat}
    (h : ((ExceptT.run (s.save c)).runFaulty faults n t).result = .ok ()) :
    ∃ v : Tree, v.write s.path c.text.utf8 =
      .ok ((ExceptT.run (s.save c)).runFaulty faults n t).tree := by
  have hensures : Action.Ensures (fun _ _ _ => True) (fun _ => True)
      (fun r u => r = .ok () → ∃ v : Tree, v.write s.path c.text.utf8 = .ok u) (s.save c) t := by
    -- whatever has become of the directories, it is the write after them that succeeds
    refine ensures_bind.mpr (Script.ensures_of_forall (fun _ => trivial) (fun r u => ?_) _ t)
    cases r with
    | error e => nofun
    | ok _ =>
      refine ensures_attempt (fun _ _ => trivial) (fun _ hanswer _ => ⟨u, ?_⟩) fun _ _ _ => nofun
      rw [perform] at hanswer ⊢
      cases hwrite : u.write s.path c.text.utf8 with
      | ok v => rfl
      | error e =>
        rw [hwrite] at hanswer
        cases hanswer
  have hwithin : Script.Within faults fun _ _ _ => True := fun _ _ _ _ _ => trivial
  exact (hensures.run hwithin n).1 h

/-! ## Loading -/

theorem yields_isFile {path : Text} {mode : Mode}
    (h : u.status path = .ok { isDirectory := false, mode }) :
    Yields (isFile path) u (.ok true) u :=
  yields_status_bind h (yields_pure true u)

theorem yields_find {path : Text} {mode : Mode}
    (hextension : (Path.fileName? path).bind Path.extension? = some extension)
    (h : u.status path = .ok { isDirectory := false, mode }) :
    Yields (find path) u (.ok (some path)) u := by
  refine yields_bind (yields_isFile h) ?_
  rw [if_pos rfl, if_pos hextension]
  exact yields_pure (some path) u

theorem yields_readText {path text : Text} (h : u.read path = .ok text.utf8) :
    Yields (readText path) u (.ok (some text)) u := by
  have hperform : u.perform (.read path) = (.ok text.utf8, u) := by rw [perform, h, asked]
  refine yields_ask_bind hperform ?_
  simp only [Text.ofUtf8?_utf8]
  exact yields_pure (some text) u

/-- The settings of a configuration that was written are read. -/
theorem yields_readSettings
    (hextension : (Path.fileName? s.path).bind Path.extension? = some extension)
    (h : t.write s.path c.text.utf8 = .ok u) :
    Yields s.readSettings u
      (.ok (ofTable (Path.normalized s.path) (c.sections.map Toml.Section.toEntry))) u := by
  obtain ⟨hread, mode, hstatus⟩ := read_of_write h
  refine yields_bind (yields_find hextension hstatus) (yields_bind (yields_readText hread) ?_)
  have hsettings : fileSettings s.path c.text =
      .ok (ofTable (Path.normalized s.path) (c.sections.map Toml.Section.toEntry)) := by
    rw [fileSettings, c.document?_text]
  show Yields (liftM (fileSettings s.path c.text)) u _ u
  rw [hsettings]
  exact yields_pure _ u

/-- A configuration that was written is loaded and checked, if the environment has no say. -/
theorem yields_load {environment : Environment}
    (hextension : (Path.fileName? s.path).bind Path.extension? = some extension)
    (henvironment : ∀ v ∈ environment, ¬ s.group.lower ++ separator <+: v.1.lower)
    (h : t.write s.path c.text.utf8 = .ok u) :
    Yields (s.load environment) u c.checked u := by
  refine yields_bind (yields_report _ u) (yields_bind (yields_readSettings hextension h) ?_)
  rw [ofEnvironment_eq_nil henvironment, Configuration.ofSources, Configuration.ofLayers_sections]
  exact ⟨rfl, rfl⟩

/-- Once a configuration has been saved, loading gives it back if it is valid, and reports what is
wrong with it if it is not. Saving may meet any faults on the way; variables of the environment count
only if their names start with the store's group and two underscores, in letters of any case. -/
theorem load_save {faults : Script.Faults} {n : Nat} {environment : Environment}
    (hextension : (Path.fileName? s.path).bind Path.extension? = some extension)
    (henvironment : ∀ v ∈ environment, ¬ s.group.lower ++ separator <+: v.1.lower)
    (hsaved : ((ExceptT.run (s.save c)).runFaulty faults n t).result = .ok ()) :
    let loaded := (ExceptT.run (s.load environment)).run
      ((ExceptT.run (s.save c)).runFaulty faults n t).tree
    (c.validate = .ok () → loaded.result = .ok c) ∧
      ∀ cause, c.validate = .error cause → loaded.result = .error (.invalid cause) := by
  obtain ⟨v, hwrite⟩ := write_of_save hsaved
  have hloaded := (yields_load hextension henvironment hwrite).1
  constructor
  · intro hvalid
    show ((ExceptT.run (s.load environment)).run _).result = .ok c
    rw [hloaded, Configuration.checked, hvalid]
  · intro cause hinvalid
    show ((ExceptT.run (s.load environment)).run _).result = .error (.invalid cause)
    rw [hloaded, Configuration.checked, hinvalid]

/-- A configuration with a value for each field that may be absent. -/
def sample : Configuration where
  write := { createParents := true, readOnly := some false, mode := some 0o640 }
  logging := { level := "DEBUG".toList }

/-- A configuration with a log level of two lines that are no name. -/
def sampleInvalid : Configuration where
  logging := { level := "it's\n\"\"\"".toList }

/-- Variables of which none counts, though the name of one starts almost as it would have to. -/
def sampleEnvironment : Environment :=
  [("HOME".toList, "/".toList), ("FileGen_Write".toList, "x".toList)]

/-- A run that saves a configuration, in a directory that has to be made. -/
abbrev savingRun (c : Configuration) : Run (Except ConfigurationError Unit) :=
  (ExceptT.run (save { path := "a/b.toml".toList } c)).runFaulty (fun _ _ _ => none) 0 Tree.empty

/-- A run that loads a configuration after that. -/
abbrev loadingRun (c : Configuration) : Run (Except ConfigurationError Configuration) :=
  (ExceptT.run (load { path := "a/b.toml".toList } sampleEnvironment)).run (savingRun c).tree

theorem sample_load_save :
    (loadingRun sample).result = .ok sample ∧
      (loadingRun sampleInvalid).result =
        .error (.invalid (.unknownLevel "it's\n\"\"\"".toList)) := by
  have hextension : (Path.fileName? "a/b.toml".toList).bind Path.extension? = some extension := by
    decide
  have henvironment :
      ∀ v ∈ sampleEnvironment, ¬ Text.lower "FILEGEN".toList ++ separator <+: v.1.lower := by
    decide
  constructor
  · have hvalid : sample.validate = .ok () := by decide
    exact (load_save hextension henvironment rfl).1 hvalid
  · have hinvalid : sampleInvalid.validate = .error (.unknownLevel "it's\n\"\"\"".toList) := by decide
    exact (load_save hextension henvironment rfl).2 _ hinvalid

end ConfigurationStore

end Scribe
