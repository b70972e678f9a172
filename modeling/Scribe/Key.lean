import Scribe.Text.Lines

/-!
# Keys

A key marks the places of a text that are filled in later. It shows there as its token, a text built
from the key's name that is unlikely to occur otherwise.
-/

namespace Scribe

/-- A placeholder, known by its token. -/
structure Key where
  token : Text
deriving DecidableEq

namespace Key

/-- What a token starts with. -/
def opening : Text := "<#InterpolationKey:".toList

/-- What a token ends with. -/
def closing : Text := "#>".toList

/-- The key of a name, of which the token is the name between fixed delimiters. -/
def named (name : Text) : Key := ⟨opening ++ name ++ closing⟩

@[simp] theorem token_named (name : Text) : (named name).token = opening ++ name ++ closing := rfl

theorem opening_ne_nil : opening ≠ [] := by decide

theorem token_named_ne_nil (name : Text) : (named name).token ≠ [] :=
  List.append_ne_nil_of_left_ne_nil (List.append_ne_nil_of_left_ne_nil opening_ne_nil _) _

end Key

end Scribe
