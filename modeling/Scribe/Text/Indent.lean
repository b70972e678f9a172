import Scribe.Text.Lines

/-!
# Indentation

An indentation is put before every line that is not empty; empty lines stay empty. The main facts,
for an indentation without line feeds:

* `lines_indent`: the lines of the indented text are the indented lines.
* `indent_append_newline`: indenting works line by line.
* `indent_indent`: an indentation on top of another is one that is made of both.
-/

namespace Scribe

namespace Text

/-- A line with an indentation, unless it is empty. -/
def indentLine (indentation line : Text) : Text := if line = [] then [] else indentation ++ line

/-- A text with an indentation before each line that is not empty. -/
def indent (indentation s : Text) : Text := unlines (s.lines.map (indentLine indentation))

@[simp] theorem indentLine_nil (indentation : Text) : indentLine indentation [] = [] := rfl

theorem indentLine_of_ne_nil (indentation : Text) {line : Text} (h : line ≠ []) :
    indentLine indentation line = indentation ++ line := if_neg h

theorem lines_indent {indentation : Text} (h : '\n' ∉ indentation) (s : Text) :
    (indent indentation s).lines = s.lines.map (indentLine indentation) := by
  refine lines_unlines (fun l hl => ?_) (by simpa using lines_ne_nil s)
  obtain ⟨m, hm, rfl⟩ := List.mem_map.mp hl
  have := newline_not_mem_of_mem_lines hm
  by_cases hn : m = [] <;> simp_all [indentLine]

theorem indent_append_newline (indentation s t : Text) :
    indent indentation (s ++ '\n' :: t) = indent indentation s ++ '\n' :: indent indentation t := by
  rw [indent, lines_append_newline, List.map_append, unlines_append] <;>
    simp [indent, lines_ne_nil]

/-- Texts that are indented and then joined are indented as a whole. -/
theorem indent_unlines (indentation : Text) (ls : List Text) :
    indent indentation (unlines ls) = unlines (ls.map (indent indentation)) := by
  induction ls with
  | nil => rfl
  | cons l ls ih =>
    cases ls with
    | nil => simp only [List.map_cons, List.map_nil, unlines_singleton]
    | cons m ls =>
      rw [unlines_cons_cons, indent_append_newline, ih]
      simp only [List.map_cons, unlines_cons_cons]

theorem indent_of_not_mem (indentation : Text) {s : Text} (h : '\n' ∉ s) :
    indent indentation s = indentLine indentation s := by
  rw [indent, lines_of_not_mem h, List.map_singleton, unlines_singleton]

/-- An indentation on top of another is one that is made of both. -/
theorem indent_indent (outer : Text) {inner : Text} (h : '\n' ∉ inner) (s : Text) :
    indent outer (indent inner s) = indent (outer ++ inner) s := by
  have hline : ∀ l : Text, indentLine outer (indentLine inner l) = indentLine (outer ++ inner) l := by
    intro l
    by_cases hl : l = []
    · rw [hl, indentLine_nil, indentLine_nil, indentLine_nil]
    · rw [indentLine_of_ne_nil _ hl, indentLine_of_ne_nil _ hl,
        indentLine_of_ne_nil _ (List.append_ne_nil_of_right_ne_nil _ hl), List.append_assoc]
  rw [indent, lines_indent h, List.map_map, indent]
  exact congrArg unlines (List.map_congr_left fun l _ => hline l)

end Text

end Scribe
