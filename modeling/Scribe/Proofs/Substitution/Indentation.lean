import Mathlib.Data.List.Forall2
import Scribe.Text.Indent

/-!
# Indentation works line by line

To indent a text is to split it at its line feeds, to indent each line, and to join the lines again. An
indentation without line feeds makes no new lines on the way, and it leaves the empty lines empty and
the others not, so a second indentation finds the lines as the first one did.

- `IndentsTo indentation l m`: what a line becomes, without mention of how.
- `eq_indent_iff`: a text is the indented one exactly if its lines are what the lines become.
- `indent_line_by_line`: the contract of indentation.
-/

namespace Scribe

namespace Text

variable {indentation l m s t : Text}

/-! ## Lines -/

/-- What a line becomes: it is empty exactly if it was, and if it was not, the indentation stands
before it. -/
def IndentsTo (indentation l m : Text) : Prop := (m = [] ↔ l = []) ∧ (l ≠ [] → m = indentation ++ l)

instance (indentation l m : Text) : Decidable (IndentsTo indentation l m) :=
  inferInstanceAs (Decidable ((m = [] ↔ l = []) ∧ (l ≠ [] → m = indentation ++ l)))

theorem indentsTo_iff : IndentsTo indentation l m ↔ indentLine indentation l = m := by
  by_cases hl : l = []
  · rw [hl, indentLine_nil]
    constructor
    · rintro ⟨hempty, -⟩
      exact (hempty.mpr rfl).symm
    · rintro rfl
      exact ⟨Iff.rfl, fun hne => absurd rfl hne⟩
  · rw [indentLine_of_ne_nil _ hl]
    constructor
    · rintro ⟨-, hindented⟩
      exact (hindented hl).symm
    · rintro rfl
      exact ⟨iff_of_false (List.append_ne_nil_of_right_ne_nil _ hl) hl, fun _ => rfl⟩

/-! ## Texts -/

/-- The lines tell whether a text is the indented one. -/
theorem eq_indent_iff (h : '\n' ∉ indentation) :
    t = indent indentation s ↔ List.Forall₂ (IndentsTo indentation) s.lines t.lines := by
  have hlines : IndentsTo indentation = fun l m => indentLine indentation l = m :=
    funext fun l => funext fun m => propext indentsTo_iff
  calc t = indent indentation s
    _ ↔ s.lines.map (indentLine indentation) = t.lines := by
      rw [← lines_injective.eq_iff, lines_indent h, eq_comm]
    _ ↔ List.Forall₂ (fun l m => indentLine indentation l = m) s.lines t.lines := by
      rw [← List.forall₂_map_left_iff, List.forall₂_eq_eq_eq]
    _ ↔ List.Forall₂ (IndentsTo indentation) s.lines t.lines := by
      rw [hlines]

/-- **Indentation works line by line.** The indented text is the one text that has as many lines, each
of them empty exactly if the line of the given text at this position is, and else this line with the
indentation before it. Two texts with a line feed between them are indented as each of the two is. And
an indentation on top of another is one that is made of both. -/
theorem indent_line_by_line (h : '\n' ∉ indentation) (s : Text) :
    (∀ t : Text, t = indent indentation s ↔ s.lines.length = t.lines.length ∧
      ∀ (i : Nat) (hs : i < s.lines.length) (ht : i < t.lines.length),
        IndentsTo indentation s.lines[i] t.lines[i]) ∧
    (∀ t : Text, indent indentation (s ++ '\n' :: t) =
      indent indentation s ++ '\n' :: indent indentation t) ∧
    ∀ outer : Text, indent outer (indent indentation s) = indent (outer ++ indentation) s :=
  ⟨fun _ => (eq_indent_iff h).trans List.forall₂_iff_get, indent_append_newline indentation s,
    fun outer => indent_indent outer h s⟩

/-- Line feeds at both ends and side by side, and a line of blanks. -/
theorem indent_blank_lines :
    let s := "\na\n\n \n".toList
    '\n' ∉ "  ".toList ∧ "\n  a\n\n   \n".toList = indent "  ".toList s ∧
      indent "\t".toList (indent "  ".toList s) = indent "\t  ".toList s ∧
      indent "\t  ".toList s = "\n\t  a\n\n\t   \n".toList := by
  intro s
  have hblanks : '\n' ∉ "  ".toList := by decide
  obtain ⟨hlines, -, hnested⟩ := indent_line_by_line hblanks s
  exact ⟨hblanks, (hlines _).mpr (by decide), hnested "\t".toList, by decide⟩

end Text

end Scribe
