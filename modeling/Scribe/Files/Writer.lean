import Scribe.Document
import Scribe.Files.FileError
import Scribe.Files.Script

/-!
# Writing documents

A document is written to a temporary file beside its destination, which gets the permissions that
the destination is to have and is then moved into its place. The destination therefore changes in
one step. A read-only destination is unlocked first, if that is allowed, and gets its permissions
back if the write fails.

* `Document.writeTo` writes a document to a path, `Document.writeInto` to a directory.
* `writeAll` writes several documents, up to the first failure.
-/

namespace Scribe

namespace Files

/-- How documents are written. -/
structure WriteOptions where
  attributes : Option Attributes := none
  /-- Whether read-only files may be unlocked to replace them. -/
  unlock : Bool := true
  /-- Whether missing directories are made. -/
  createParents : Bool := false
  /-- Whether the write is only rehearsed. -/
  dryRun : Bool := false
deriving DecidableEq

/-- The options that settings choose. -/
def WriteOptions.ofSettings (s : WriteSettings) : WriteOptions :=
  { attributes := Attributes.ofSettings s
    unlock := s.unlock
    createParents := s.createParents
    dryRun := s.dryRun }

/-- What became of one document. -/
structure Outcome where
  path : Text
  written : Bool
  /-- Whether the destination was read-only and had to be unlocked. -/
  unlocked : Bool
  dryRun : Bool
deriving DecidableEq

/-- What became of several documents. -/
structure Report where
  files : List Outcome
  summary : Summary
deriving DecidableEq

namespace Report

/-- The report on no document. -/
def empty (dryRun : Bool) : Report := { files := [], summary := { written := 0, unlocked := 0, dryRun } }

/-- The report with one more outcome. -/
def add (r : Report) (o : Outcome) : Report :=
  { files := r.files ++ [o]
    summary :=
      { r.summary with
        written := r.summary.written + o.written.toNat
        unlocked := r.summary.unlocked + o.unlocked.toNat } }

end Report

/-! ## Steps of a write -/

/-- Makes a directory and those above it that are missing, given nearest first. -/
def ensureDirectories : List Text → Action SystemError Unit
  | [] => return
  | p :: above => do
    match ← Action.ask (.makeDirectory p) with
    | .ok () => return
    | .error .noEntry =>
      ensureDirectories above
      match ← Action.ask (.makeDirectory p) with
      | .ok () => return
      | .error e => unlessDirectory p e
    | .error e => unlessDirectory p e
where
  /-- Fails, unless the path leads to a directory. -/
  unlessDirectory (p : Text) (e : SystemError) : Action SystemError Unit := do
    match ← Action.ask (.status p) with
    | .ok status => if status.isDirectory then return else throw e
    | .error _ => throw e

/-- The directories that a path needs, nearest first; none, if it stands in the working directory. -/
def parentDirectories (path : Text) : List Text :=
  match Path.parent? path with
  | some parent => Path.ancestors parent
  | none => []

/-- Makes the directories that a path needs. -/
def createParentsOf (path : Text) : Action FileError Unit :=
  (ensureDirectories (parentDirectories path)).adapt (.writeFailed path)

/-- The permissions of the destination, if it is there. -/
def existingMode (path : Text) : Action FileError (Option Mode) := do
  match ← Action.ask (.status path) with
  | .ok status => return some status.mode
  | .error .noEntry => return none
  | .error e => throw (.writeFailed path e)

/-- The name of a temporary file, which a tag tells apart from all others. -/
def temporaryName (tag path : Text) : Text :=
  ".tmp-".toList ++ tag ++ '-' :: (Path.fileName? path).getD "file".toList

/-- The path of the temporary file beside a path. -/
def temporaryPath (tag path : Text) : Text := Path.withFileName path (temporaryName tag path)

/-- The permissions that the temporary file is given, if it does not keep those it was made with. -/
def finalMode (temporary path : Text) (existing : Option Mode) (attributes : Attributes) :
    Action FileError (Option Mode) := do
  match existing with
  | some mode => return some (attributes.applyTo mode)
  | none =>
    if attributes.isEmpty then return none
    else
      let status ← Action.attempt (.status temporary) (.attributesFailed path)
      return some (attributes.applyTo status.mode)

/-- Writes the temporary file, gives it its permissions, and moves it into place. -/
def moveIntoPlace (temporary path contents : Text) (existing : Option Mode)
    (attributes : Attributes) : Action FileError Unit := do
  Action.attempt (.write temporary contents.utf8) (.writeFailed path)
  match ← finalMode temporary path existing attributes with
  | some mode => Action.attempt (.setMode temporary mode) (.attributesFailed path)
  | none => pure ()
  Action.attempt (.move temporary path) (.writeFailed path)

/-- Replaces the destination in one step; after a failure no temporary file is left. -/
def replaceAtomically (tag path contents : Text) (existing : Option Mode)
    (attributes : Attributes) : Action FileError Unit := do
  let temporary := temporaryPath tag path
  try moveIntoPlace temporary path contents existing attributes
  catch e =>
    let _ ← Action.repair (.remove temporary)
    throw e

/-- Lifts the write protection of the destination, if there is one. Says whether there was. -/
def unlockDestination (options : WriteOptions) (path : Text) : Option Mode → Action FileError Bool
  | none => return false
  | some mode =>
    if mode.isReadOnly then
      if options.unlock then do
        Action.attempt (.setMode path mode.unlock) (.attributesFailed path)
        Action.report (.unlocked path)
        return true
      else throw (.notWritable path)
    else return false

/-- Puts the permissions of the destination back. -/
def restoreMode (path : Text) (mode : Mode) : Action FileError Unit := do
  match ← Action.repair (.setMode path mode) with
  | .ok () => return
  | .error e => Action.report (.restoreFailed (.restoreFailed path e))

/-- Replaces the contents of the destination, and says whether it had to be unlocked. -/
def replaceLocked (options : WriteOptions) (tag path contents : Text) : Action FileError Bool := do
  let existing ← existingMode path
  let unlocked ← unlockDestination options path existing
  try replaceAtomically tag path contents existing (options.attributes.getD {})
  catch e =>
    match existing with
    | some mode => if unlocked then restoreMode path mode
    | none => pure ()
    throw e
  return unlocked

/-! ## Documents -/

/-- Writes a document to a path. -/
def writeTo (options : WriteOptions) (tag : Text) (d : Document) (path : Text) :
    Action FileError Outcome := do
  if options.dryRun then
    Action.report (.skipped path)
    return { path, written := false, unlocked := false, dryRun := true }
  else
    if options.createParents then createParentsOf path
    let unlocked ← replaceLocked options tag path d.contents
    Action.report (.wrote d.name path d.contents.utf8Length unlocked)
    return { path, written := true, unlocked, dryRun := false }

/-- Writes a document into a directory, under its name. -/
def writeInto (options : WriteOptions) (tag : Text) (d : Document) (directory : Text) :
    Action FileError Outcome :=
  writeTo options tag d (Path.join directory d.name)

/-- The tags of the temporary files of writes in a row. They are drawn at random, one for each write;
here they are given. -/
def Tags := Nat → Text

/-- One tag, drawn every time. -/
instance : Coe Text Tags := ⟨fun tag _ => tag⟩

/-- The tags that are drawn after the first ones. -/
def Tags.drop (tags : Tags) (n : Nat) : Tags := fun i => tags (i + n)

/-- Writes documents one after the other, each with a tag of its own, and adds what became of them to a
report. -/
def writeEach (options : WriteOptions) (tags : Tags) (directory : Text) : List Document → Report →
    Action FileError Report
  | [], report => return report
  | d :: ds, report => do
    let outcome ← writeInto options (tags 0) d directory
    writeEach options (tags.drop 1) directory ds (report.add outcome)

/-- Writes documents into a directory, up to the first failure. -/
def writeAll (options : WriteOptions) (tags : Tags) (ds : List Document) (directory : Text) :
    Action FileError Report := do
  let report ← writeEach options tags directory ds (.empty options.dryRun)
  Action.report (.finished report.summary)
  return report

/-! ## Attributes -/

/-- Gives a file the permissions asked for. -/
def Attributes.apply (a : Attributes) (path : Text) : Action FileError Unit := do
  if a.isEmpty then return
  else
    let status ← Action.attempt (.status path) (.attributesFailed path)
    Action.attempt (.setMode path (a.applyTo status.mode)) (.attributesFailed path)

end Files

end Scribe
