import Scribe.Event
import Scribe.Files.Call

/-!
# Scripts

A script is a program over the file system as a value: it reports events, makes calls, and goes on
according to their answers. Keeping the calls apart from what they do to a tree lets one look at
runs in which calls fail for reasons of their own (`runFaulty`), and at every state that such a run
passes through (`statesFaulty`). Calls that put back what an earlier call changed are marked as
repairs. The main facts:

* `bind_assoc`: it does not matter how scripts in a row are grouped.
* `run_bind`: scripts run one after the other on the tree that the first one leaves.
* `runFaulty_none`: a run without faults is the run.
-/

namespace Scribe

namespace Files

/-- What a call is for. -/
inductive Purpose where
  | work
  /-- To put back what an earlier call changed. -/
  | repair
deriving DecidableEq

/-- A program over the file system. -/
inductive Script (α : Type) where
  | done (a : α)
  | report (e : Event) (next : Script α)
  | call (purpose : Purpose) (c : Call) (next : Except SystemError c.Answer → Script α)

/-- How a run ended. -/
structure Run (α : Type) where
  result : α
  tree : Tree
  events : List Event

namespace Script

variable {α β : Type}

/-- Runs a script, then the one that its result asks for. -/
def bind : Script α → (α → Script β) → Script β
  | done a, f => f a
  | report e next, f => report e (next.bind f)
  | call purpose c next, f => call purpose c fun answer => (next answer).bind f

instance : Monad Script where
  pure := done
  bind := bind

protected theorem bind_assoc {γ : Type} (s : Script α) (f : α → Script β) (g : β → Script γ) :
    (s.bind f).bind g = s.bind fun a => (f a).bind g := by
  induction s with
  | done a => rfl
  | report e next ih => simp only [bind, ih]
  | call purpose c next ih => simp only [bind, ih]

theorem bind_done (s : Script α) : s.bind done = s := by
  induction s with
  | done a => rfl
  | report e next ih => simp only [bind, ih]
  | call purpose c next ih => simp only [bind, ih]

instance : LawfulMonad Script :=
  LawfulMonad.mk' Script bind_done (fun _ _ => rfl) Script.bind_assoc

/-! ## Runs -/

/-- Runs a script on a tree. -/
def run : Script α → Tree → Run α
  | done a, t => { result := a, tree := t, events := [] }
  | report e next, t =>
    let r := next.run t
    { r with events := e :: r.events }
  | call _ c next, t => (next (t.perform c).1).run (t.perform c).2

@[simp] theorem run_pure (a : α) (t : Tree) :
    (pure a : Script α).run t = { result := a, tree := t, events := [] } := rfl

@[simp] theorem run_bind (s : Script α) (f : α → Script β) (t : Tree) :
    (s >>= f).run t =
      { result := ((f (s.run t).result).run (s.run t).tree).result
        tree := ((f (s.run t).result).run (s.run t).tree).tree
        events := (s.run t).events ++ ((f (s.run t).result).run (s.run t).tree).events } := by
  change (s.bind f).run t = _
  induction s generalizing t with
  | done a => rfl
  | report e next ih => simp [bind, run, ih]
  | call purpose c next ih => simp [bind, run, ih]

/-! ## Runs with faults -/

/-- A failure of a call for reasons outside the tree. A write that breaks off may leave a file that
holds the bytes `written` so far. -/
structure Fault where
  cause : SystemError
  written : Option Bytes := none
deriving DecidableEq

/-- The tree after a call that failed. -/
def Fault.leave (f : Fault) (c : Call) (t : Tree) : Tree :=
  match c, f.written with
  | .write p _, some bytes => (t.perform (.write p bytes)).2
  | _, _ => t

/-- Decides which calls fail, by their number in the run and what they are. -/
abbrev Faults := Nat → Purpose → Call → Option Fault

/-- Runs a script on a tree, where some calls, counted from `n`, fail for reasons of their own. -/
def runFaulty (faults : Faults) : Script α → (n : Nat) → Tree → Run α
  | done a, _, t => { result := a, tree := t, events := [] }
  | report e next, n, t =>
    let r := next.runFaulty faults n t
    { r with events := e :: r.events }
  | call purpose c next, n, t =>
    match faults n purpose c with
    | none => (next (t.perform c).1).runFaulty faults (n + 1) (t.perform c).2
    | some f => (next (.error f.cause)).runFaulty faults (n + 1) (f.leave c t)

/-- The trees that one may come upon while a call goes on: a file that is written holds the bytes
that came first. -/
def statesDuring (c : Call) (t : Tree) : List Tree :=
  match c with
  | .write p bytes =>
    (List.range (bytes.length + 1)).map fun n => (t.perform (.write p (bytes.take n))).2
  | _ => []

/-- The trees before, in, between and after the calls of a run with faults, in their order. -/
def statesFaulty (faults : Faults) : Script α → (n : Nat) → Tree → List Tree
  | done _, _, t => [t]
  | report _ next, n, t => next.statesFaulty faults n t
  | call purpose c next, n, t =>
    t :: statesDuring c t ++
      match faults n purpose c with
      | none => (next (t.perform c).1).statesFaulty faults (n + 1) (t.perform c).2
      | some f => (next (.error f.cause)).statesFaulty faults (n + 1) (f.leave c t)

theorem runFaulty_none (s : Script α) (n : Nat) (t : Tree) :
    s.runFaulty (fun _ _ _ => none) n t = s.run t := by
  induction s generalizing n t with
  | done a => rfl
  | report e next ih => simp [runFaulty, run, ih]
  | call purpose c next ih => simp [runFaulty, run, ih]

/-- The last tree of a run is the one that it leaves. -/
theorem getLast?_statesFaulty (faults : Faults) (s : Script α) (n : Nat) (t : Tree) :
    (s.statesFaulty faults n t).getLast? = some (s.runFaulty faults n t).tree := by
  induction s generalizing n t with
  | done a => rfl
  | report e next ih => exact ih n t
  | call purpose c next ih =>
    rw [statesFaulty, runFaulty, List.getLast?_append]
    cases faults n purpose c <;> simp [ih]

end Script

/-! ## Actions -/

/-- A script that may fail. -/
abbrev Action (ε : Type) := ExceptT ε Script

namespace Action

variable {ε : Type}

/-- Reports an event. -/
def report (e : Event) : Action ε Unit := ExceptT.lift (.report e (.done ()))

/-- Makes a call, and hands over its answer, whether it succeeded or not. -/
def ask (c : Call) : Action ε (Except SystemError c.Answer) := ExceptT.lift (.call .work c .done)

/-- Makes a call to put something back; it may fail as well. -/
def repair (c : Call) : Action ε (Except SystemError c.Answer) :=
  ExceptT.lift (.call .repair c .done)

/-- Makes a call, of which the failure is a failure of the action. -/
def attempt (c : Call) (failure : SystemError → ε) : Action ε c.Answer := do
  match ← ask c with
  | .ok answer => return answer
  | .error e => throw (failure e)

end Action

end Files

end Scribe
