import Scribe.Configuration.Store
import Scribe.Proofs.Files.Session

/-!
# Configurations that are loaded

Whatever file is there and whatever the environment gives, a configuration that is loaded can be used:
logging starts with it, and the mode that it asks for is one that a file can have, so that a write
gives the file this mode and no other. The check of loading is the only place where this is decided.

- `result_load`: what loading comes to, by what reading the file comes to.
- `newMode_of_le`: a mode in range is not cut short, whether it is locked or unlocked.
- `Write.get?_after`: a document that is written with a mode in range has this mode.
- `usable_of_load`: all of this for what is loaded; what is not valid is refused as such.
-/

namespace Scribe

open Files Files.Tree Settings

/-! ## Loading -/

namespace ConfigurationStore

/-- Loading reads the file, and then goes by what the file and the environment give. -/
theorem result_load (s : ConfigurationStore) (environment : Environment) (faults : Script.Faults)
    (n : Nat) (t : Tree) :
    ((ExceptT.run (s.load environment)).runFaulty faults n t).result =
      ((ExceptT.run s.readSettings).runFaulty faults n t).result.bind fun given =>
        Configuration.ofSources given (ofEnvironment s.group environment) := by
  let rest := fun given : Entries => (liftM (Configuration.ofSources given
    (ofEnvironment s.group environment)) : Action ConfigurationError Configuration)
  -- the report before it makes no call
  have hload : ((ExceptT.run (s.load environment)).runFaulty faults n t).result =
      ((ExceptT.run (s.readSettings >>= rest)).runFaulty faults n t).result := rfl
  rw [hload]
  cases hread : ((ExceptT.run s.readSettings).runFaulty faults n t).result with
  | ok given => exact (Action.runFaulty_bind_ok rest hread).1
  | error e => exact (Action.runFaulty_bind_error rest hread).1

end ConfigurationStore

/-! ## Modes in range -/

namespace Files

/-- A mode in range is given to a file as it is, once it is locked or unlocked. -/
theorem newMode_of_le {a : Attributes} {m : Mode} (hmode : a.mode = some m) (hle : m ≤ largestMode)
    (existing : Option Mode) :
    newMode a existing = ({ readOnly := a.readOnly } : Attributes).applyTo m := by
  obtain ⟨readOnly, mode⟩ := a
  obtain rfl : mode = some m := hmode
  rw [newMode]
  have heffective := Mode.effective_of_le hle
  cases readOnly with
  | none => exact heffective
  | some locked =>
    cases locked with
    | true => exact (Mode.effective_lock m).trans (congrArg Mode.lock heffective)
    | false => exact (Mode.effective_unlock m).trans (congrArg Mode.unlock heffective)

/-- A write with settings that ask for a mode in range gives it to the document, locked or unlocked
as they ask, whatever was in its place and whatever fails on the way. -/
theorem Write.get?_after {w : Write} {settings : WriteSettings} {m : Mode} {outcome : Outcome}
    (hoptions : w.options = .ofSettings settings) (hdry : settings.dryRun = false)
    (hmode : settings.mode = some m) (hle : m ≤ largestMode) (hfresh : w.Fresh)
    (h : w.run.result = .ok outcome) :
    ∃ l, Target w.prepared w.path l ∧
      w.after.get? l =
        some (.file (({ readOnly := settings.readOnly } : Attributes).applyTo m)
          w.document.contents.utf8) := by
  have hattributes : w.options.attributes.getD {} =
      { readOnly := settings.readOnly, mode := some m } := by
    rw [hoptions, WriteOptions.ofSettings, Attributes.ofSettings, hmode]
    simp [Attributes.isEmpty]
  have hdry' : w.options.dryRun = false := by rw [hoptions, WriteOptions.ofSettings, hdry]
  obtain ⟨l, existing, target, hfile⟩ := (Write.replaced hfresh hdry' h).get?_eq
  rw [hattributes, newMode_of_le rfl hle] at hfile
  exact ⟨l, target, hfile⟩

end Files

/-! ## What is loaded -/

/-- A configuration that can be used: it is valid, logging starts at the level that it names, and if
it asks for a mode, this is one that a file can have, and the one that a file gets. -/
structure Configuration.Usable (c : Configuration) : Prop where
  valid : c.validate = .ok ()
  starts : ∃ level, LogLevel.parse? c.logging.level = some level ∧ c.logging.start = .ok level
  mode_le : ∀ m, c.write.mode = some m → m ≤ largestMode
  get?_after : ∀ (w : Write) (outcome : Outcome) (m : Mode),
    w.options = .ofSettings c.write → c.write.dryRun = false → c.write.mode = some m → w.Fresh →
    w.run.result = .ok outcome → ∃ l, Target w.prepared w.path l ∧
      w.after.get? l = some (.file (({ readOnly := c.write.readOnly } : Attributes).applyTo m)
        w.document.contents.utf8)

theorem Configuration.usable_of_validate {c : Configuration} (h : c.validate = .ok ()) :
    c.Usable := by
  obtain ⟨hlevel, hmode⟩ := validate_eq_ok_iff.mp h
  obtain ⟨level, hlevel⟩ := Option.isSome_iff_exists.mp hlevel
  have hle : ∀ m, c.write.mode = some m → m ≤ largestMode := fun m hm => hmode m hm
  refine ⟨h, ⟨level, hlevel, ?_⟩, hle, fun w outcome m hoptions hdry hm hfresh hresult => ?_⟩
  · rw [LoggingSettings.start, hlevel]
  · exact w.get?_after hoptions hdry hm (hle m hm) hfresh hresult

namespace ConfigurationStore

/-- Every configuration that is loaded can be used, whatever the file holds, whatever the variables
are and whichever calls fail; and if the file and the environment give a configuration that is not
valid, loading reports what is wrong with it. -/
theorem usable_of_load (s : ConfigurationStore) (environment : Environment)
    (faults : Script.Faults) (n : Nat) (t : Tree) :
    let loaded := ((ExceptT.run (s.load environment)).runFaulty faults n t).result
    (∀ c, loaded = .ok c → c.Usable) ∧
      ∀ given c cause,
        ((ExceptT.run s.readSettings).runFaulty faults n t).result = .ok given →
        Configuration.ofLayers given (ofEnvironment s.group environment) = .ok c →
        c.validate = .error cause → loaded = .error (.invalid cause) := by
  intro loaded
  have hloaded : loaded = _ := result_load s environment faults n t
  constructor
  · intro c hc
    rw [hloaded] at hc
    cases hread : ((ExceptT.run s.readSettings).runFaulty faults n t).result with
    | error e =>
      rw [hread] at hc
      cases hc
    | ok given =>
      rw [hread] at hc
      exact Configuration.usable_of_validate (Configuration.ofSources_eq_ok_iff.mp hc).2
  · intro given c cause hread hlayers hinvalid
    rw [hloaded, hread, Except.bind, Configuration.ofSources, hlayers]
    simp only [Configuration.checked, hinvalid]

/-- A file that asks for a mode. -/
def modeTree : Tree :=
  Tree.empty.set ["c.toml".toList] (.file 0o644 (Text.utf8 "[write]\nmode = 0o640\n".toList))

/-- What this file and a variable ask for. -/
def lockedSettings : WriteSettings := { mode := some 0o640, readOnly := some true }

/-- A write to an empty directory as the settings ask for it. -/
def lockedWrite : Write where
  options := .ofSettings lockedSettings
  tag := "x".toList
  document := note
  path := "note".toList
  faults := fun _ _ _ => none
  number := 0
  before := Tree.empty

/-- A run that loads a configuration, without faults. -/
abbrev loadRun (environment : Environment) (t : Tree) :
    Run (Except ConfigurationError Configuration) :=
  (ExceptT.run (load { path := "c.toml".toList } environment)).runFaulty (fun _ _ _ => none) 0 t

theorem locked_settings_usable :
    (loadRun [("Filegen__Write__Read_Only".toList, "true".toList)] modeTree).result =
      .ok { write := lockedSettings } ∧
    (∃ l, Target lockedWrite.prepared lockedWrite.path l ∧
      lockedWrite.after.get? l = some (.file 0o440 note.contents.utf8)) ∧
    (loadRun [("FILEGEN__LOGGING__LEVEL".toList, "chatty".toList)] Tree.empty).result =
      .error (.invalid (.unknownLevel "chatty".toList)) := by
  have hloaded : (loadRun [("Filegen__Write__Read_Only".toList, "true".toList)] modeTree).result =
      .ok { write := lockedSettings } := by
    decide +kernel
  refine ⟨hloaded, ?_, ?_⟩
  · have husable := (usable_of_load { path := "c.toml".toList } _ _ 0 modeTree).1 _ hloaded
    exact husable.get?_after lockedWrite
      { path := "note".toList, written := true, unlocked := false, dryRun := false } 0o640
      rfl rfl rfl (fresh_empty (by decide)) rfl
  · have hlayers : Configuration.ofLayers [] (ofEnvironment "FILEGEN".toList
        [("FILEGEN__LOGGING__LEVEL".toList, "chatty".toList)]) =
          .ok { logging := { level := "chatty".toList } } := by
      decide +kernel
    exact (usable_of_load { path := "c.toml".toList } _ _ 0 Tree.empty).2 [] _ _ rfl hlayers
      (by decide)

end ConfigurationStore

end Scribe
