import Mathlib.Logic.Relation
import Scribe.Proofs.Substitution.Lines

/-!
# The end of the last line

A document that is made with its last line ended keeps it so. Only a token with a line feed in it could
take the last line feed away, since all others are filled within lines, and the empty line after the
last line feed has nothing to fill.

- `MadeOf name text d`: the document is made of the text, with its last line to be ended.
- `Filling d d'`: a key whose token has no line feed is filled, with any value.
- `Ended name text d`: **the invariant**. The name is as it was, and the contents are empty if the text
  was empty, and end in a line feed if not. It holds of what is made (`MadeOf.ended`) and is kept by each
  step (`Ended.filling`).
- `final_newline_kept`: so it holds after any steps, and to make a document once more adds nothing.
-/

namespace Scribe

namespace Document

open Substitution

variable {name other text : Text} {d d' : Document}

/-! ## Documents as they are made -/

/-- The ways to make a document of a text so that its last line is ended: of a builder, and of any
fragment. -/
inductive MadeOf (name : Text) : (text : Text) → Document → Prop
  | build (b : Builder) {options : DocumentOptions} (h : options.endWithNewline) :
    MadeOf name b.build (Document.build name b options).value
  | ofFragment (f : Fragment) {options : DocumentOptions} (h : options.endWithNewline) :
    MadeOf name f.contents (Document.ofFragment name options f).value

theorem MadeOf.eq (h : MadeOf name text d) : d = { name, contents := text.withFinalNewline } := by
  cases h with
  | build b h =>
    rw [Document.build, compose, if_pos h]
  | ofFragment f h =>
    show (compose name _ f.contents).value = _
    rw [compose, if_pos h]

/-! ## The invariant -/

/-- A key is filled whose token has no line feed. -/
def Filling (d d' : Document) : Prop :=
  ∃ k value, '\n' ∉ k.token ∧ d' = (d.fill k value).value

/-- What a document made of a text is like, whatever has been filled in it. -/
structure Ended (name text : Text) (d : Document) : Prop where
  name_eq : d.name = name
  empty : text = [] → d.contents = []
  ended : text ≠ [] → ∃ before, d.contents = before ++ ['\n']

theorem MadeOf.ended (h : MadeOf name text d) : Ended name text d := by
  rw [h.eq]
  refine ⟨rfl, fun hempty => ?_, fun hne => ?_⟩
  · show text.withFinalNewline = []
    rw [Text.withFinalNewline_eq_self_iff.mpr (.inl hempty), hempty]
  · show ∃ before, text.withFinalNewline = before ++ ['\n']
    by_cases hlast : text.getLast? = some '\n'
    · obtain ⟨before, hbefore⟩ := List.getLast?_eq_some_iff.mp hlast
      exact ⟨before, by rw [Text.withFinalNewline_eq_self_iff.mpr (.inr hlast), hbefore]⟩
    · exact ⟨text, if_neg (not_or_intro hne hlast)⟩

/-- A last line feed stays: it ends a line that is filled on its own, and nothing is filled after it. -/
theorem apply_concat_newline {σ : Substitution} (h : '\n' ∉ σ.token) (before : Text) :
    σ.apply (before ++ ['\n']) = σ.apply before ++ ['\n'] := by
  rw [apply_append_newline h, apply_nil]

theorem Ended.filling (h : Ended name text d) (hstep : Filling d d') : Ended name text d' := by
  obtain ⟨k, value, hk, rfl⟩ := hstep
  refine ⟨h.name_eq, fun hempty => ?_, fun hne => ?_⟩
  · rw [contents_fill, h.empty hempty, apply_nil]
  · obtain ⟨before, hbefore⟩ := h.ended hne
    rw [contents_fill, hbefore, apply_concat_newline hk]
    exact ⟨_, rfl⟩

theorem Ended.run (h : Ended name text d) (hrun : Relation.ReflTransGen Filling d d') :
    Ended name text d' := by
  induction hrun with
  | refl => exact h
  | tail _ hstep ih => exact ih.filling hstep

/-- There is nothing to add at the end. -/
theorem Ended.withFinalNewline_eq (h : Ended name text d) :
    d.contents.withFinalNewline = d.contents := by
  refine Text.withFinalNewline_eq_self_iff.mpr ?_
  by_cases hempty : text = []
  · exact .inl (h.empty hempty)
  · exact .inr (List.getLast?_eq_some_iff.mpr (h.ended hempty))

/-! ## The result -/

/-- **The last line stays ended.** Let a document be made of a text, of which the last line is to be
ended. However many keys are filled in it one after the other, with whatever values, as long as their
tokens hold no line feed: it keeps its name; it stays empty if the text is empty, and otherwise it is
not empty and ends in a line feed. What is made of the result in the same way has the same contents. -/
theorem final_newline_kept (hd : MadeOf name text d) (hrun : Relation.ReflTransGen Filling d d') :
    d'.name = name ∧ (text = [] → d'.contents = []) ∧
      (text ≠ [] → d'.contents ≠ [] ∧ d'.contents.getLast? = some '\n') ∧
      ∀ other d'', MadeOf other d'.contents d'' → d'' = { name := other, contents := d'.contents } := by
  have h := hd.ended.run hrun
  refine ⟨h.name_eq, h.empty, fun hne => ?_, fun other d'' hagain => ?_⟩
  · obtain ⟨before, hbefore⟩ := h.ended hne
    rw [hbefore]
    exact ⟨by simp, by simp⟩
  · rw [hagain.eq, h.withFinalNewline_eq]

/-- Two keys, the first of which is filled with a value that has the second one right before its end,
and the second with nothing: what is left of the last line is its end. -/
theorem final_newline_after_blank_value :
    let f : Fragment := .builder [.text "x".toList, .key ⟨"<a>".toList⟩]
    let d := (Document.ofFragment "d".toList {} f).value
    let d' := ((d.fill ⟨"<a>".toList⟩ "y\n<b>".toList).value.fill ⟨"<b>".toList⟩ []).value
    MadeOf "d".toList f.contents d ∧ Relation.ReflTransGen Filling d d' ∧
      d'.name = "d".toList ∧ d'.contents.getLast? = some '\n' := by
  intro f d d'
  have hd : MadeOf "d".toList f.contents d := .ofFragment f rfl
  have hrun : Relation.ReflTransGen Filling d d' :=
    .tail (.single ⟨⟨"<a>".toList⟩, _, by decide, rfl⟩) ⟨⟨"<b>".toList⟩, _, by decide, rfl⟩
  have hne : f.contents ≠ [] := by
    rw [Fragment.contents_builder]
    simp
  obtain ⟨hname, -, hended, -⟩ := final_newline_kept hd hrun
  exact ⟨hd, hrun, hname, (hended hne).2⟩

end Document

end Scribe
