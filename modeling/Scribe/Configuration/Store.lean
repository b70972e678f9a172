import Scribe.Configuration.Conversion
import Scribe.Files.Writer
import Scribe.Settings.Source
import Scribe.Toml.Reader

/-!
# Kept configurations

A configuration is kept in a TOML file. Loading puts what the file gives over the defaults, and what
the environment gives over that; a file that is missing or cannot be read gives nothing. Saving writes
all of it. Files of other formats are not read.

* `ConfigurationStore.load` loads and checks a configuration, `ConfigurationStore.save` saves one.
* `Configuration.ofSources_eq_ok_iff`: what is loaded is valid.
* `ConfigurationStore.defaultPath` is where a user's configuration is kept.
-/

namespace Scribe

open Files Settings

/-- Why a configuration could not be loaded, checked, used or saved. -/
inductive ConfigurationError where
  | io (cause : SystemError)
  /-- The file holds no TOML document. What is wrong with it is not reported. -/
  | malformed
  | conversion (cause : ConversionError)
  | invalid (cause : Invalid)
  | logging (cause : Invalid)
deriving DecidableEq

/-- The text that says what is wrong, where there is one. -/
def ConfigurationError.message? : ConfigurationError → Option Text
  | io cause => "IO error: ".toList ++ cause.message
  | malformed => none
  | conversion cause => "Load error: ".toList ++ cause.message
  | invalid cause => "Validation error: ".toList ++ cause.message
  | logging cause => "Logging error: ".toList ++ cause.message

/-- Where a configuration is kept, and which variables change it. -/
structure ConfigurationStore where
  path : Text
  /-- What the names of the variables start with, before two underscores. -/
  group : Text := "FILEGEN".toList
deriving DecidableEq

namespace Configuration

/-- Checks that a configuration can be used. -/
def checked (c : Configuration) : Except ConfigurationError Configuration :=
  match c.validate with
  | .ok () => .ok c
  | .error cause => .error (.invalid cause)

theorem checked_eq_ok_iff {c d : Configuration} :
    c.checked = .ok d ↔ c = d ∧ d.validate = .ok () := by
  unfold checked
  constructor
  · intro h
    split at h
    · cases h
      exact ⟨rfl, ‹_›⟩
    · cases h
  · rintro ⟨rfl, h⟩
    rw [h]

/-- The configuration that a file and the environment give, if it can be used. -/
def ofSources (file environment : Entries) : Except ConfigurationError Configuration :=
  match ofLayers file environment with
  | .ok c => c.checked
  | .error cause => .error (.conversion cause)

theorem ofSources_eq_ok_iff {file environment : Entries} {c : Configuration} :
    ofSources file environment = .ok c ↔
      ofLayers file environment = .ok c ∧ c.validate = .ok () := by
  unfold ofSources
  cases ofLayers file environment with
  | error cause => simp
  | ok d => simp only [checked_eq_ok_iff, Except.ok.injEq]

end Configuration

namespace ConfigurationStore

/-! ## The default place -/

/-- The path in the directory for configurations, if it is absolute, or else in the home directory, or
else in the working directory. -/
def defaultPath (home configurations : Option Text) : Text :=
  let directory :=
    match configurations.filter Path.isAbsolute, home.filter (· ≠ []) with
    | some directory, _ => directory
    | none, some home => Path.join home ".config".toList
    | none, none => ['.']
  Path.join (Path.join directory "filegen".toList) "config.toml".toList

/-! ## Loading -/

/-- Whether a path leads to a file. -/
def isFile (path : Text) : Action ConfigurationError Bool := do
  match ← Action.ask (.status path) with
  | .ok status => return !status.isDirectory
  | .error _ => return false

/-- The extension of the files that are read. -/
def extension : Text := "toml".toList

/-- The path with an extension added to its file name, if it has one. -/
def withExtension? (path : Text) : Option Text :=
  (Path.fileName? path).map fun name => Path.withFileName path (name ++ '.' :: extension)

/-- The file that a path stands for: the one it leads to, if that has the right extension, or else one
whose extension has been left out. Only TOML files are represented. A file that another extension marks
as JSON, JSON5, YAML, INI or RON could be read too; here it counts as a file that gives nothing. -/
def find (path : Text) : Action ConfigurationError (Option Text) := do
  if ← isFile path then
    return if (Path.fileName? path).bind Path.extension? = some extension then some path else none
  else
    match withExtension? path with
    | some path => return if ← isFile path then some path else none
    | none => return none

/-- The text of a file, if it can be read. -/
def readText (path : Text) : Action ConfigurationError (Option Text) := do
  match ← Action.ask (.read path) with
  | .ok bytes => return Text.ofUtf8? bytes
  | .error _ => return none

/-- The settings that the text of a file gives. Their origin is the path of the file. -/
def fileSettings (path text : Text) : Except ConfigurationError Entries :=
  match Toml.document? text with
  | some table => .ok (ofTable (Path.normalized path) table)
  | none => .error .malformed

/-- The settings that the file gives, if there is one. -/
def readSettings (s : ConfigurationStore) : Action ConfigurationError Entries := do
  match ← find s.path with
  | none => return []
  | some path =>
    match ← readText path with
    | none => return []
    | some text => fileSettings path text

/-- Loads the configuration, and checks it. -/
def load (s : ConfigurationStore) (environment : Environment) :
    Action ConfigurationError Configuration := do
  Action.report (.loading s.path)
  let given ← s.readSettings
  Configuration.ofSources given (ofEnvironment s.group environment)

/-! ## Saving -/

/-- Saves a configuration. Directories that are missing are made. -/
def save (s : ConfigurationStore) (c : Configuration) : Action ConfigurationError Unit := do
  (ensureDirectories (parentDirectories s.path)).adapt .io
  Action.attempt (.write s.path c.text.utf8) .io

end ConfigurationStore

end Scribe
