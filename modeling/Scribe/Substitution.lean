import Scribe.Event
import Scribe.Text.Indent
import Scribe.Text.Occurrence

/-!
# Substitution

A value takes the place of each occurrence of a token. What stands before the token on its line is
the indentation of the value: it is put before every line of the value that is not empty, and it is
lost if the value has no other lines. The search for the next occurrence starts after the inserted
text, so a value that holds the token is not filled again.

The text is edited in place:

* `nextEdit?` finds the next occurrence and the edit that fills it.
* `rewriteFrom` makes one edit after the other until no occurrence is left.
* `inRange_of_nextEdit?`: every edit lies within the text that it is made on.

`onePass` says the same without a text that changes: it goes over the pieces between the
occurrences once.
-/

namespace Scribe

/-- A value for a token. -/
structure Substitution where
  token : Text
  value : Text
deriving DecidableEq

/-! ## Edits -/

/-- The replacement of the characters from `first` on and before `last`. -/
structure Edit where
  first : Nat
  last : Nat
  inserted : Text
deriving DecidableEq

namespace Edit

/-- The text after the edit. -/
def apply (e : Edit) (buffer : Text) : Text := buffer.take e.first ++ e.inserted ++ buffer.drop e.last

/-- Where the inserted text ends. -/
def stop (e : Edit) : Nat := e.first + e.inserted.length

/-- The edit replaces characters that are there. -/
def InRange (e : Edit) (buffer : Text) : Prop := e.first ≤ e.last ∧ e.last ≤ buffer.length

instance (e : Edit) (buffer : Text) : Decidable (e.InRange buffer) :=
  inferInstanceAs (Decidable (_ ∧ _))

/-- What follows an edit is what followed the characters that it replaced. -/
theorem drop_stop_apply {e : Edit} {buffer : Text} (h : e.InRange buffer) :
    (e.apply buffer).drop e.stop = buffer.drop e.last := by
  have hf : (buffer.take e.first).length = e.first := by
    rw [List.length_take, Nat.min_eq_left (Nat.le_trans h.1 h.2)]
  rw [apply, List.drop_append, List.drop_eq_nil_of_le (by simp [stop, hf])]
  simp [stop, hf]

end Edit

/-! ## The search for the next occurrence -/

namespace Substitution

/-- The edit that fills the first occurrence at or after a position. -/
def nextEdit? (σ : Substitution) (buffer : Text) (position : Nat) : Option Edit :=
  (Text.cut? σ.token (buffer.drop position)).map fun (before, _) =>
    let start := position + before.length
    let lineStart := (Text.initialLines (buffer.take start)).length
    { first := lineStart
      last := start + σ.token.length
      inserted := Text.indent ((buffer.take start).drop lineStart) σ.value }

theorem inRange_of_nextEdit? {σ : Substitution} {buffer : Text} {position : Nat} {e : Edit}
    (hp : position ≤ buffer.length) (h : σ.nextEdit? buffer position = some e) :
    e.InRange buffer := by
  obtain ⟨⟨before, after⟩, hc, rfl⟩ := Option.map_eq_some_iff.mp h
  have length := congrArg List.length (Text.eq_of_cut? hc)
  simp only [List.length_drop, List.length_append] at length
  have le : ∀ s : Text, s.initialLines.length ≤ s.length := fun s => by
    conv => rhs; rw [← Text.initialLines_append_lastLine s, List.length_append]
    exact Nat.le_add_right _ _
  have first := le (buffer.take (position + before.length))
  rw [List.length_take] at first
  constructor <;> simp only <;> omega

/-- An edit leaves less behind it than there was to search. -/
theorem remaining_lt_of_nextEdit? {σ : Substitution} {buffer : Text} {position : Nat} {e : Edit}
    (hne : σ.token ≠ []) (h : σ.nextEdit? buffer position = some e) :
    (e.apply buffer).length - e.stop < buffer.length - position := by
  have hlt : position < buffer.length := by
    refine Nat.lt_of_not_le fun hle => ?_
    rw [nextEdit?, List.drop_eq_nil_of_le hle] at h
    simp [Text.cut?, hne] at h
  have range := inRange_of_nextEdit? (Nat.le_of_lt hlt) h
  rw [← List.length_drop, Edit.drop_stop_apply range, List.length_drop]
  obtain ⟨⟨before, after⟩, _, rfl⟩ := Option.map_eq_some_iff.mp h
  have := List.length_pos_iff.mpr hne
  simp only
  omega

/-! ## All occurrences -/

/-- Fills every occurrence at or after a position, and counts them. -/
def rewriteFrom (σ : Substitution) (hne : σ.token ≠ []) (buffer : Text) (position : Nat) :
    Text × Nat :=
  match _h : σ.nextEdit? buffer position with
  | none => (buffer, 0)
  | some e =>
    let (text, count) := σ.rewriteFrom hne (e.apply buffer) e.stop
    (text, count + 1)
termination_by buffer.length - position
decreasing_by exact remaining_lt_of_nextEdit? hne _h

/-- Fills every occurrence of the token, and counts them; an empty token occurs nowhere. -/
def rewrite (σ : Substitution) (contents : Text) : Text × Nat :=
  if h : σ.token = [] then (contents, 0) else σ.rewriteFrom h contents 0

/-- The text with every occurrence of the token filled. -/
def apply (σ : Substitution) (contents : Text) : Text := (σ.rewrite contents).1

/-- Fills every occurrence of the token, and reports how many there were, if there were any. -/
def run (σ : Substitution) (contents : Text) : Traced Text :=
  let (text, count) := σ.rewrite contents
  ⟨text, if count = 0 then [] else [.substituted σ.token count]⟩

@[simp] theorem value_run (σ : Substitution) (contents : Text) :
    (σ.run contents).value = σ.apply contents := rfl

theorem apply_of_token_eq_nil {σ : Substitution} (h : σ.token = []) (contents : Text) :
    σ.apply contents = contents := by
  simp [apply, rewrite, h]

/-! ## The same in one pass -/

/-- Puts the value after a text, indented by the text's last line, and a piece after it. -/
def extend (value acc piece : Text) : Text :=
  acc.initialLines ++ Text.indent acc.lastLine value ++ piece

/-- The pieces between the occurrences, with the value put in from left to right. -/
def onePass (σ : Substitution) (contents : Text) : Text :=
  match Text.pieces σ.token contents with
  | [] => []
  | piece :: rest => rest.foldl (extend σ.value) piece

end Substitution

end Scribe
