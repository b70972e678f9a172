import Scribe.Configuration
import Scribe.Settings.Address
import Scribe.Settings.Conversion
import Scribe.Toml.Writer

/-!
# Configurations as settings

A configuration is read off settings, section by section and field by field; what they do not give
has its default. Going the other way, a configuration is written as a document of sections.

* `ofSettings` converts settings; `ofSettings_emptyTable`: without any, all is as by default.
* `ofLayers` converts what a file and the environment give, of which the environment has the last word.
* `sections` gives the sections in which a configuration is written.
-/

namespace Scribe

open Settings

/-! ## From settings -/

/-- The document options that a record gives. -/
def DocumentOptions.ofRecord (r : Record) : Except ConversionError DocumentOptions := do
  let d : DocumentOptions := {}
  return { endWithNewline := ← r.field 0 "end_with_newline".toList d.endWithNewline Setting.toBool }

/-- The write settings that a record gives. -/
def WriteSettings.ofRecord (r : Record) : Except ConversionError WriteSettings := do
  let d : WriteSettings := {}
  return {
    unlock := ← r.field 0 "unlock".toList d.unlock Setting.toBool
    createParents := ← r.field 1 "create_parent_directories".toList d.createParents Setting.toBool
    dryRun := ← r.field 2 "dry_run".toList d.dryRun Setting.toBool
    readOnly := ← r.field 3 "read_only".toList d.readOnly (Setting.optional Setting.toBool)
    mode := ← r.field 4 "mode".toList d.mode (Setting.optional Setting.toUInt32) }

/-- The logging settings that a record gives. -/
def LoggingSettings.ofRecord (r : Record) : Except ConversionError LoggingSettings := do
  let d : LoggingSettings := {}
  return {
    level := ← r.field 0 "level".toList d.level Setting.toText
    withTarget := ← r.field 1 "with_target".toList d.withTarget Setting.toBool }

namespace Configuration

/-- The section at a key, which is a record of a type, or its default if it is not given. -/
def sectionOf {α : Type} (entries : Entries) (key type : Text) (default : α)
    (convert : Record → Except ConversionError α) : Except ConversionError α :=
  match entries.get? key with
  | none => .ok default
  | some s => Record.ofSetting key type s >>= convert

/-- The configuration that settings give. -/
def ofSettings (settings : Setting) : Except ConversionError Configuration := do
  let entries := settings.entries
  let d : Configuration := {}
  return {
    document := ←
      sectionOf entries "document".toList "DocumentConfig".toList d.document DocumentOptions.ofRecord
    write := ← sectionOf entries "write".toList "WriteConfig".toList d.write WriteSettings.ofRecord
    logging := ←
      sectionOf entries "logging".toList "LoggingConfig".toList d.logging LoggingSettings.ofRecord }

@[simp] theorem ofSettings_emptyTable : ofSettings Setting.emptyTable = .ok {} := rfl

/-- The configuration that a file and the environment give. -/
def ofLayers (file environment : Entries) : Except ConversionError Configuration :=
  ofSettings (layer environment (layer file Setting.emptyTable))

end Configuration

/-! ## To a document -/

/-- The section in which document options are written. -/
def DocumentOptions.toSection (d : DocumentOptions) : Toml.Section where
  name := "document".toList
  entries := [("end_with_newline".toList, .boolean d.endWithNewline)]

/-- The entry of a field that may be left out. -/
def optionalEntry {α : Type} (name : String) (value : Option α) (toScalar : α → Toml.Scalar) :
    List (Text × Toml.Scalar) :=
  (value.map fun a => (name.toList, toScalar a)).toList

/-- The section in which write settings are written. -/
def WriteSettings.toSection (w : WriteSettings) : Toml.Section where
  name := "write".toList
  entries :=
    [("unlock".toList, .boolean w.unlock),
      ("create_parent_directories".toList, .boolean w.createParents),
      ("dry_run".toList, .boolean w.dryRun)] ++
      optionalEntry "read_only" w.readOnly .boolean ++
      optionalEntry "mode" w.mode fun mode => .integer mode.toNat

/-- The section in which logging settings are written. -/
def LoggingSettings.toSection (s : LoggingSettings) : Toml.Section where
  name := "logging".toList
  entries := [("level".toList, .string s.level), ("with_target".toList, .boolean s.withTarget)]

namespace Configuration

/-- The sections in which a configuration is written. -/
def sections (c : Configuration) : List Toml.Section :=
  [c.document.toSection, c.write.toSection, c.logging.toSection]

/-- The text of the file in which a configuration is kept. -/
def text (c : Configuration) : Text := Toml.documentText c.sections

end Configuration

end Scribe
