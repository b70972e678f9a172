import Scribe.Text.Lines

/-!
# Names of truth values

The two names, and the way back: `bool?_ofBool`.
-/

namespace Scribe

namespace Text

/-- The name of a truth value. -/
def ofBool (b : Bool) : Text := if b then "true".toList else "false".toList

/-- The truth value that a text names. -/
def bool? (s : Text) : Option Bool :=
  if s = ofBool true then some true
  else if s = ofBool false then some false
  else none

@[simp] theorem bool?_ofBool (b : Bool) : bool? (ofBool b) = some b := by
  cases b <;> decide

theorem bool?_eq_some_iff {s : Text} {b : Bool} : bool? s = some b ↔ s = ofBool b := by
  constructor
  · intro h
    unfold bool? at h
    split at h
    · simp_all
    · split at h <;> simp_all
  · rintro rfl
    exact bool?_ofBool b

end Text

end Scribe
