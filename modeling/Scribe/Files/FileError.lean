import Scribe.Files.SystemError

/-!
# Failures of file operations

Each failure names the file it was about; `path_infix_message` says that its message shows that name.
-/

namespace Scribe

namespace Files

/-- Why a file could not be written or given its attributes. -/
inductive FileError where
  | writeFailed (path : Text) (cause : SystemError)
  /-- The destination is read-only, and unlocking it was not allowed. -/
  | notWritable (path : Text)
  | attributesFailed (path : Text) (cause : SystemError)
  /-- The permissions of an unlocked destination could not be put back. -/
  | restoreFailed (path : Text) (cause : SystemError)
deriving DecidableEq

namespace FileError

/-- The file that the failure is about. -/
def path : FileError → Text
  | writeFailed path _ | notWritable path | attributesFailed path _ | restoreFailed path _ => path

/-- What was attempted, up to the name of the file. -/
def attempt : FileError → Text
  | writeFailed _ _ | notWritable _ => "Failed to write file to ".toList
  | attributesFailed _ _ => "Failed to set attributes on ".toList
  | restoreFailed _ _ => "Failed to restore attributes on ".toList

/-- Why it failed. -/
def reason : FileError → Text
  | notWritable _ => "destination is not writable".toList
  | writeFailed _ cause | attributesFailed _ cause | restoreFailed _ cause => cause.message

/-- What was attempted, on which file, and why it failed. -/
def message (e : FileError) : Text := e.attempt ++ e.path ++ ": ".toList ++ e.reason

theorem path_infix_message (e : FileError) : e.path <:+: e.message :=
  ⟨e.attempt, ": ".toList ++ e.reason, by simp [message]⟩

end FileError

end Files

end Scribe
