import Scribe.Document
import Scribe.Text.Numeral

/-!
# Configurations

The choices that a user can make, their defaults, and the conditions on them that their types do not
express. The main facts:

* `validate_eq_ok_iff`: a configuration is valid exactly if its log level is the name of one and its
  mode, if it has one, is a mode of a file.
-/

namespace Scribe

/-- How files are written. -/
structure WriteSettings where
  /-- Whether read-only files may be unlocked to replace them. -/
  unlock : Bool := true
  /-- Whether missing directories are made. -/
  createParents : Bool := false
  /-- Whether a write is only rehearsed. -/
  dryRun : Bool := false
  readOnly : Option Bool := none
  mode : Option UInt32 := none
deriving DecidableEq

/-- How events are logged. -/
structure LoggingSettings where
  level : Text := "info".toList
  withTarget : Bool := false
deriving DecidableEq

/-- All settings. -/
structure Configuration where
  document : DocumentOptions := {}
  write : WriteSettings := {}
  logging : LoggingSettings := {}
deriving DecidableEq

/-! ## Validity -/

/-- The largest mode that a file can have. -/
def largestMode : UInt32 := 0o7777

/-- What is wrong with a configuration. -/
inductive Invalid where
  | unknownLevel (level : Text)
  | modeOutOfRange (mode : UInt32)
deriving DecidableEq

/-- The text that says what is wrong. -/
def Invalid.message : Invalid → Text
  | unknownLevel level => "Unknown log level: ".toList ++ level
  | modeOutOfRange mode => "File mode out of range: ".toList ++ Text.octal mode.toNat

namespace LoggingSettings

/-- Prepares logging at the level that the settings name. -/
def start (s : LoggingSettings) : Except Invalid LogLevel :=
  match LogLevel.parse? s.level with
  | some level => .ok level
  | none => .error (.unknownLevel s.level)

end LoggingSettings

namespace Configuration

/-- Checks the log level, then the mode. -/
def validate (c : Configuration) : Except Invalid Unit :=
  if (LogLevel.parse? c.logging.level).isNone then .error (.unknownLevel c.logging.level)
  else
    match c.write.mode with
    | none => .ok ()
    | some mode => if largestMode < mode then .error (.modeOutOfRange mode) else .ok ()

theorem validate_eq_ok_iff {c : Configuration} :
    c.validate = .ok () ↔
      (LogLevel.parse? c.logging.level).isSome ∧ ∀ m ∈ c.write.mode, m ≤ largestMode := by
  unfold validate
  cases LogLevel.parse? c.logging.level with
  | none => simp
  | some level =>
    cases c.write.mode with
    | none => simp
    | some mode => by_cases h : largestMode < mode <;> simp [h, UInt32.not_lt.mp, UInt32.not_le.mpr]

end Configuration

end Scribe
