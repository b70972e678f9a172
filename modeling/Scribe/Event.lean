import Scribe.Files.FileError
import Scribe.LogLevel
import Scribe.Text.Truth

/-!
# Events

What an operation reports while it runs. An event is a value that says what happened; its level, its
message and its fields are read off it.
-/

namespace Scribe

/-- The outcome of writing several documents, in numbers. -/
structure Summary where
  written : Nat
  unlocked : Nat
  dryRun : Bool
deriving DecidableEq

/-- The summary in one line. -/
def Summary.text (s : Summary) : Text :=
  "Files written: ".toList ++ Text.ofNat s.written ++ ", Files unlocked: ".toList ++
    Text.ofNat s.unlocked ++ if s.dryRun then " (dry-run)".toList else []

/-- Something worth reporting. -/
inductive Event where
  /-- A key's token was replaced, this many times. -/
  | substituted (token : Text) (occurrences : Nat)
  /-- A document of this many bytes was made. -/
  | composed (document : Text) (bytes : Nat)
  | loading (path : Text)
  /-- A write was left out, because it was only rehearsed. -/
  | skipped (path : Text)
  | unlocked (path : Text)
  /-- A document was written; `lifted` says whether its destination had to be unlocked. -/
  | wrote (document path : Text) (bytes : Nat) (lifted : Bool)
  | finished (summary : Summary)
  /-- A write failed, and so did putting back the permissions of its destination. -/
  | restoreFailed (error : Files.FileError)
deriving DecidableEq

namespace Event

def level : Event → LogLevel
  | composed _ _ => .trace
  | restoreFailed _ => .warn
  | _ => .debug

def message : Event → Text
  | substituted _ _ => "Substituted interpolation key".toList
  | composed _ _ => "Composed document".toList
  | loading _ => "Loading filegen config".toList
  | skipped _ => "Dry-run: skipping write".toList
  | unlocked _ => "Unlocked read-only destination".toList
  | wrote _ _ _ _ => "Wrote document".toList
  | finished _ => "Finished writing documents".toList
  | restoreFailed _ => "Failed to restore attributes after failed write".toList

/-- The named values of an event. -/
def fields : Event → List (Text × Text)
  | substituted token occurrences =>
    [("token".toList, token), ("occurrences".toList, Text.ofNat occurrences)]
  | composed document bytes =>
    [("document".toList, document), ("bytes".toList, Text.ofNat bytes)]
  | loading path | skipped path | unlocked path => [("path".toList, path)]
  | wrote document path bytes lifted =>
    [("document".toList, document), ("path".toList, path), ("bytes".toList, Text.ofNat bytes),
      ("unlocked".toList, Text.ofBool lifted)]
  | finished summary => [("summary".toList, summary.text)]
  | restoreFailed error => [("error".toList, error.message)]

end Event

/-! ## Traced values -/

/-- A value, with the events reported while it was computed. -/
structure Traced (α : Type) where
  value : α
  events : List Event
deriving DecidableEq

namespace Traced

/-- Reports one event. -/
def report (e : Event) : Traced Unit := ⟨(), [e]⟩

instance : Monad Traced where
  pure a := ⟨a, []⟩
  bind x f := ⟨(f x.value).value, x.events ++ (f x.value).events⟩

instance : LawfulMonad Traced :=
  LawfulMonad.mk' Traced (fun ⟨_, _⟩ => congrArg _ (List.append_nil _)) (fun _ _ => rfl)
    fun _ _ _ => congrArg _ (List.append_assoc _ _ _)

variable {α β : Type}

@[simp] theorem value_pure (a : α) : (pure a : Traced α).value = a := rfl

@[simp] theorem events_pure (a : α) : (pure a : Traced α).events = [] := rfl

@[simp] theorem value_bind (x : Traced α) (f : α → Traced β) :
    (x >>= f).value = (f x.value).value := rfl

@[simp] theorem events_bind (x : Traced α) (f : α → Traced β) :
    (x >>= f).events = x.events ++ (f x.value).events := rfl

@[simp] theorem value_map (f : α → β) (x : Traced α) : (f <$> x).value = f x.value := rfl

@[simp] theorem events_map (f : α → β) (x : Traced α) : (f <$> x).events = x.events :=
  List.append_nil _

end Traced

end Scribe
