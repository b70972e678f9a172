import Scribe.Proofs.Files.Session

/-!
# What scripts say

What can be said of the result of a script and of the events that it reports, however its calls are
answered. No tree comes into it, so that it holds of every run, on every tree and with any faults.

- `Script.Says s post`: whatever its calls answer, `post` holds of the result and of the events.
- `Says.run`: what that says of the runs with faults.
- `says_bind`, `says_tryCatch`, `says_adapt`, …: one rule for each way to make an action.
- `Quiet`: actions that report nothing, with what is known of their failures.
- `says_writeTo`, `Write.told`: what a write says (`Told`), from what its steps say. A failure names the
  destination (`Blames`), whichever step it comes from.
-/

namespace Scribe

namespace Files

/-! ## Contracts on what is said -/

namespace Script

variable {α β : Type} {post post' : α → List Event → Prop}

/-- Whatever the calls of a script answer, something holds of its result and its events. -/
def Says : Script α → (α → List Event → Prop) → Prop
  | done a, post => post a []
  | report e next, post => next.Says fun a events => post a (e :: events)
  | call _ _ next, post => ∀ answer, (next answer).Says post

/-- What a script says it says in every run. -/
theorem Says.run {s : Script α} (h : s.Says post) (faults : Faults) (n : Nat) (t : Tree) :
    post (s.runFaulty faults n t).result (s.runFaulty faults n t).events := by
  induction s generalizing post n t with
  | done a => exact h
  | report e next ih => exact ih h n t
  | call purpose c next ih =>
    rw [runFaulty]
    cases faults n purpose c with
    | none => exact ih _ (h _) (n + 1) _
    | some f => exact ih _ (h _) (n + 1) _

theorem Says.mono {s : Script α} (h : s.Says post) (himp : ∀ a events, post a events → post' a events) :
    s.Says post' := by
  induction s generalizing post post' with
  | done a => exact himp a [] h
  | report e next ih => exact ih h fun a events => himp a (e :: events)
  | call purpose c next ih => exact fun answer => ih answer (h answer) himp

theorem says_bind {s : Script α} {f : α → Script β} {post : β → List Event → Prop} :
    (s.bind f).Says post ↔ s.Says fun a events => (f a).Says fun b more => post b (events ++ more) := by
  induction s generalizing post with
  | done a => rfl
  | report e next ih => exact ih
  | call purpose c next ih => exact forall_congr' fun answer => ih answer

end Script

namespace Action

variable {ε α β : Type} {post : Except ε α → List Event → Prop}

/-- What an action says, as a script with a result or a failure. -/
abbrev Says (x : Action ε α) (post : Except ε α → List Event → Prop) : Prop :=
  Script.Says (ExceptT.run x) post

theorem says_pure {a : α} : Says (pure a) post ↔ post (.ok a) [] := Iff.rfl

theorem says_report {e : Event} {post : Except ε Unit → List Event → Prop} :
    Says (report e) post ↔ post (.ok ()) [e] := Iff.rfl

theorem says_bind {x : Action ε α} {f : α → Action ε β} {post : Except ε β → List Event → Prop} :
    Says (x >>= f) post ↔ Says x fun r events => match r with
      | .ok a => Says (f a) fun r more => post r (events ++ more)
      | .error e => post (.error e) events := by
  refine Script.says_bind.trans (Iff.of_eq (congrArg (Script.Says (ExceptT.run x)) ?_))
  funext r events
  cases r with
  | ok a => rfl
  | error e => exact congrArg (post (.error e)) (List.append_nil events)

theorem says_tryCatch {x : Action ε α} {handle : ε → Action ε α} :
    Says (tryCatch x handle) post ↔ Says x fun r events => match r with
      | .ok a => post (.ok a) events
      | .error e => Says (handle e) fun r more => post r (events ++ more) := by
  refine Script.says_bind.trans (Iff.of_eq (congrArg (Script.Says (ExceptT.run x)) ?_))
  funext r events
  cases r with
  | ok a => exact congrArg (post (.ok a)) (List.append_nil events)
  | error e => rfl

theorem says_adapt {ε' : Type} {x : Action ε α} {f : ε → ε'} {post : Except ε' α → List Event → Prop} :
    Says (x.adapt f) post ↔ Says x fun r events => post (r.mapError f) events := by
  refine Script.says_bind.trans (Iff.of_eq (congrArg (Script.Says (ExceptT.run x)) ?_))
  funext r events
  exact congrArg (post (r.mapError f)) (List.append_nil events)

/-- A call may answer anything, whatever it is made for. -/
theorem says_repair {c : Call} {post : Except ε (Except SystemError c.Answer) → List Event → Prop} :
    Says (repair c) post ↔ ∀ answer, post (.ok answer) [] := Iff.rfl

theorem says_ask {c : Call} {post : Except ε (Except SystemError c.Answer) → List Event → Prop} :
    Says (ask c) post ↔ ∀ answer, post (.ok answer) [] := Iff.rfl

/-! ## Actions that report nothing -/

variable {failure failure' : ε → Prop} {x : Action ε α}

/-- An action reports nothing, and if it fails, something holds of its failure. -/
def Quiet (failure : ε → Prop) (x : Action ε α) : Prop :=
  Says x fun r events => events = [] ∧ ∀ e, r = .error e → failure e

theorem says_of_quiet (h : Quiet failure x) (hok : ∀ a, post (.ok a) [])
    (herror : ∀ e, failure e → post (.error e) []) : Says x post := by
  refine Script.Says.mono h ?_
  rintro (e | a) events ⟨rfl, hfailure⟩
  · exact herror e (hfailure e rfl)
  · exact hok a

theorem quiet_pure (a : α) : Quiet failure (pure a : Action ε α) := ⟨rfl, nofun⟩

theorem quiet_throw {e : ε} (h : failure e) : Quiet failure (throw e : Action ε α) :=
  ⟨rfl, by rintro _ ⟨⟩; exact h⟩

theorem quiet_ask (c : Call) : Quiet failure (ask c) := says_ask.mpr fun _ => ⟨rfl, nofun⟩

theorem quiet_repair (c : Call) : Quiet failure (repair c) := says_repair.mpr fun _ => ⟨rfl, nofun⟩

theorem Quiet.bind {f : α → Action ε β} (h : Quiet failure x) (hf : ∀ a, Quiet failure (f a)) :
    Quiet failure (x >>= f) :=
  says_bind.mpr (says_of_quiet h hf fun e he => ⟨rfl, by rintro _ ⟨⟩; exact he⟩)

theorem Quiet.tryCatch {handle : ε → Action ε α} (h : Quiet failure x)
    (hhandle : ∀ e, failure e → Quiet failure' (handle e)) : Quiet failure' (tryCatch x handle) :=
  says_tryCatch.mpr (says_of_quiet h (fun _ => ⟨rfl, nofun⟩) hhandle)

theorem Quiet.adapt {ε' : Type} {f : ε → ε'} {failure' : ε' → Prop} (h : Quiet failure x)
    (hf : ∀ e, failure' (f e)) : Quiet failure' (x.adapt f) :=
  says_adapt.mpr (says_of_quiet h (fun _ => ⟨rfl, nofun⟩) fun e _ => ⟨rfl, by rintro _ ⟨⟩; exact hf e⟩)

theorem quiet_attempt {c : Call} {f : SystemError → ε} (h : ∀ e, failure (f e)) :
    Quiet failure (attempt c f) := by
  refine (quiet_ask c).bind fun answer => ?_
  cases answer with
  | ok a => exact quiet_pure a
  | error e => exact quiet_throw (h e)

end Action

/-! ## What the steps of a write say -/

open Files.Action

section Steps

variable {options : WriteOptions} {tag path contents temporary : Text} {d : Document}

/-- A failure is about a destination, and not about putting something back. -/
structure Blames (path : Text) (e : FileError) : Prop where
  path_eq : e.path = path
  ne_restoreFailed : ∀ p cause, e ≠ .restoreFailed p cause

theorem blames_writeFailed (path : Text) (cause : SystemError) :
    Blames path (.writeFailed path cause) := ⟨rfl, nofun⟩

theorem blames_attributesFailed (path : Text) (cause : SystemError) :
    Blames path (.attributesFailed path cause) := ⟨rfl, nofun⟩

theorem blames_notWritable (path : Text) : Blames path (.notWritable path) := ⟨rfl, nofun⟩

theorem quiet_unlessDirectory (p : Text) (e : SystemError) :
    Quiet (fun _ => True) (ensureDirectories.unlessDirectory p e) := by
  refine (quiet_ask _).bind fun answer => ?_
  split
  · split
    · exact quiet_pure ()
    · exact quiet_throw trivial
  · exact quiet_throw trivial

theorem quiet_ensureDirectories (ps : List Text) : Quiet (fun _ => True) (ensureDirectories ps) := by
  induction ps with
  | nil => exact quiet_pure ()
  | cons p above ih =>
    refine (quiet_ask _).bind fun answer => ?_
    split
    · exact quiet_pure ()
    · refine ih.bind fun _ => (quiet_ask _).bind fun answer => ?_
      split
      · exact quiet_pure ()
      · exact quiet_unlessDirectory p _
    · exact quiet_unlessDirectory p _

theorem quiet_createParentsOf (path : Text) : Quiet (Blames path) (createParentsOf path) :=
  (quiet_ensureDirectories _).adapt (blames_writeFailed path)

theorem quiet_existingMode (path : Text) : Quiet (Blames path) (existingMode path) := by
  refine (quiet_ask _).bind fun answer => ?_
  split
  · exact quiet_pure _
  · exact quiet_pure _
  · exact quiet_throw (blames_writeFailed path _)

theorem quiet_finalMode (temporary path : Text) (existing : Option Mode) (attributes : Attributes) :
    Quiet (Blames path) (finalMode temporary path existing attributes) := by
  cases existing with
  | some mode => exact quiet_pure _
  | none =>
    rw [finalMode]
    split
    · exact quiet_pure _
    · exact (quiet_attempt (blames_attributesFailed path)).bind fun _ => quiet_pure _

theorem quiet_moveIntoPlace (temporary path contents : Text) (existing : Option Mode)
    (attributes : Attributes) :
    Quiet (Blames path) (moveIntoPlace temporary path contents existing attributes) := by
  refine (quiet_attempt (blames_writeFailed path)).bind fun _ =>
    (quiet_finalMode temporary path existing attributes).bind fun mode => ?_
  have hmove := quiet_attempt (c := .move temporary path) (blames_writeFailed path)
  cases mode with
  | none => exact hmove
  | some mode => exact (quiet_attempt (blames_attributesFailed path)).bind fun _ => hmove

theorem quiet_replaceAtomically (tag path contents : Text) (existing : Option Mode)
    (attributes : Attributes) :
    Quiet (Blames path) (replaceAtomically tag path contents existing attributes) :=
  (quiet_moveIntoPlace _ path contents existing attributes).tryCatch fun _ he =>
    (quiet_repair _).bind fun _ => quiet_throw he

/-- What is reported of the lock of a destination. -/
def unlockEvents (path : Text) (lifted : Bool) : List Event := if lifted then [.unlocked path] else []

theorem says_unlockDestination (existing : Option Mode)
    {post : Except FileError Bool → List Event → Prop}
    (hok : ∀ lifted, post (.ok lifted) (unlockEvents path lifted))
    (herror : ∀ e, Blames path e → post (.error e) []) :
    Says (unlockDestination options path existing) post := by
  cases existing with
  | none => exact hok false
  | some mode =>
    rw [unlockDestination]
    split
    · split
      · exact says_bind.mpr (says_of_quiet (quiet_attempt (blames_attributesFailed path))
          (fun _ => says_bind.mpr (says_report.mpr (hok true))) herror)
      · exact herror _ (blames_notWritable path)
    · exact hok false

/-- What is reported if permissions are put back: at most that this failed. -/
inductive RestoreEvents (path : Text) : List Event → Prop
  | restored : RestoreEvents path []
  | failed (cause : SystemError) : RestoreEvents path [.restoreFailed (.restoreFailed path cause)]

theorem says_restoreMode (path : Text) (mode : Mode) :
    Says (restoreMode path mode) fun r events => r = .ok () ∧ RestoreEvents path events := by
  refine says_bind.mpr (says_repair.mpr fun answer => ?_)
  cases answer with
  | ok _ => exact ⟨rfl, .restored⟩
  | error cause => exact ⟨rfl, .failed cause⟩

/-- What a write that fails has reported: nothing, or that it unlocked its destination and perhaps
that this could not be undone. -/
inductive FailureEvents (path : Text) : List Event → Prop
  | nothing : FailureEvents path []
  | unlocked {restore : List Event} (h : RestoreEvents path restore) :
      FailureEvents path (.unlocked path :: restore)

theorem failureEvents_unlockEvents (path : Text) (lifted : Bool) :
    FailureEvents path (unlockEvents path lifted) := by
  cases lifted with
  | false => exact .nothing
  | true => exact .unlocked .restored

theorem says_replaceLocked {post : Except FileError Bool → List Event → Prop}
    (hok : ∀ lifted, post (.ok lifted) (unlockEvents path lifted))
    (herror : ∀ e events, Blames path e → FailureEvents path events → post (.error e) events) :
    Says (replaceLocked options tag path contents) post := by
  rw [replaceLocked_eq]
  refine says_bind.mpr (says_of_quiet (quiet_existingMode path) (fun existing => ?_)
    fun e he => herror e [] he .nothing)
  refine says_bind.mpr (says_unlockDestination existing (fun lifted => ?_)
    fun e he => herror e [] he .nothing)
  have hquiet := quiet_replaceAtomically tag path contents existing (options.attributes.getD {})
  refine says_bind.mpr (says_tryCatch.mpr (says_of_quiet hquiet (fun _ => ?_) fun e he => ?_))
  · simpa [says_pure] using hok lifted
  · -- only what was unlocked is put back
    have hkept : FailureEvents path (unlockEvents path lifted ++ []) := by
      simpa using failureEvents_unlockEvents path lifted
    cases existing with
    | none => exact herror e _ he hkept
    | some mode =>
      cases lifted with
      | false => exact herror e _ he hkept
      | true =>
        refine says_bind.mpr ((says_restoreMode path mode).mono ?_)
        rintro _ restore ⟨rfl, hrestore⟩
        refine herror e _ he ?_
        simpa [unlockEvents] using FailureEvents.unlocked hrestore

/-- What a write says, by how it ends. -/
inductive Told (options : WriteOptions) (d : Document) (path : Text) :
    Except FileError Outcome → List Event → Prop
  | skipped (dry : options.dryRun = true) :
      Told options d path (.ok { path, written := false, unlocked := false, dryRun := true })
        [.skipped path]
  | wrote (dry : options.dryRun = false) (lifted : Bool) :
      Told options d path (.ok { path, written := true, unlocked := lifted, dryRun := false })
        (unlockEvents path lifted ++ [.wrote d.name path d.contents.utf8Length lifted])
  | failed (dry : options.dryRun = false) {e : FileError} {events : List Event}
      (blames : Blames path e) (said : FailureEvents path events) :
      Told options d path (.error e) events

theorem says_replaceAndReport (hdry : options.dryRun = false) :
    Says (replaceAndReport options tag d path) (Told options d path) :=
  says_bind.mpr (says_replaceLocked (fun lifted => says_bind.mpr (says_report.mpr (.wrote hdry lifted)))
    fun _ _ blames said => .failed hdry blames said)

theorem says_writeTo (options : WriteOptions) (tag : Text) (d : Document) (path : Text) :
    Says (writeTo options tag d path) (Told options d path) := by
  rw [writeTo]
  cases hdry : options.dryRun with
  | true => exact says_bind.mpr (says_report.mpr (.skipped hdry))
  | false =>
    cases hparents : options.createParents with
    | true =>
      exact says_bind.mpr (says_of_quiet (quiet_createParentsOf path)
        (fun _ => says_replaceAndReport hdry) fun e he => .failed hdry he .nothing)
    | false => exact says_replaceAndReport hdry

end Steps

/-- What is told of a write holds in every run of it. -/
theorem Write.told (w : Write) : Told w.options w.document w.path w.run.result w.run.events :=
  (says_writeTo w.options w.tag w.document w.path).run w.faults w.number w.before

end Files

end Scribe
