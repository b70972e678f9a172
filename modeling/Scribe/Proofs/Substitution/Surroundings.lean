import Mathlib.Data.List.Forall2
import Scribe.Proofs.Substitution.Lines

/-!
# What stands around a token is kept

To fill a token, the loop takes away what stands before it on its line, and puts it back as the
indentation of the value, before lines that are not empty only. So nothing but a value of empty lines
loses text of the contents, however often a line is taken away and put back.

- `Text.append_sublist_indent`: an indented text that is not all line feeds holds its indentation, and
  behind it the text from its first line on that is not empty.
- `sublist_extend`: the step of the one pass keeps what it has, and adds the value and the piece.
- `prefix_foldl_extend`, `sublist_foldl_extend`: what that means for all steps.
- `surroundings_kept`: the lines before the first occurrence, the text after the last one, and all
  between them.
-/

namespace Scribe

namespace Text

variable {s : Text}

/-! ## Subsequences of joined texts -/

/-- A text before joined texts can be put before the first of them. -/
theorem append_intercalate_cons (separator s l : Text) (ls : List Text) :
    s ++ separator.intercalate (l :: ls) = separator.intercalate ((s ++ l) :: ls) := by
  cases ls with
  | nil => simp only [List.intercalate_singleton]
  | cons m ls => simp only [List.intercalate_cons_cons, List.append_assoc]

theorem flatten_sublist_intercalate (separator : Text) (ls : List Text) :
    ls.flatten.Sublist (separator.intercalate ls) := by
  induction ls with
  | nil => exact List.nil_sublist _
  | cons l ls ih =>
    cases ls with
    | nil =>
      rw [List.intercalate_singleton, List.flatten_singleton]
    | cons m ls =>
      rw [List.flatten_cons, List.intercalate_cons_cons]
      exact (List.sublist_append_left l separator).append ih

/-- Lines that are subsequences of others, joined. -/
theorem unlines_sublist {ls ms : List Text} (h : List.Forall₂ List.Sublist ls ms) :
    (unlines ls).Sublist (unlines ms) := by
  induction h with
  | nil => exact List.Sublist.refl _
  | @cons l m ls ms hlm hrest ih =>
    cases hrest with
    | nil => simpa only [unlines_singleton] using hlm
    | cons _ _ =>
      rw [unlines_cons_cons, unlines_cons_cons]
      exact hlm.append (ih.cons_cons '\n')

/-! ## Subsequences of an indented text -/

theorem sublist_indentLine (indentation l : Text) : l.Sublist (indentLine indentation l) := by
  by_cases hl : l = []
  · rw [hl]
    exact List.nil_sublist _
  · rw [indentLine_of_ne_nil _ hl]
    exact List.sublist_append_right indentation l

/-- A text whose first line is not empty is kept, and the indentation before it. -/
theorem append_cons_sublist_indent (indentation : Text) {c : Char} (hc : c ≠ '\n') (s : Text) :
    (indentation ++ c :: s).Sublist (indent indentation (c :: s)) := by
  obtain ⟨l, ls, hls⟩ := List.exists_cons_of_ne_nil (lines_ne_nil s)
  have hlines : lines (c :: s) = (c :: l) :: ls := by
    rw [lines, List.splitOn_cons_eq_if_modifyHead, if_neg (by simpa using hc), ← lines, hls,
      List.modifyHead_cons]
  have htext : indentation ++ c :: s = unlines ((indentation ++ c :: l) :: ls) := by
    conv => lhs; rw [← unlines_lines (c :: s), hlines]
    exact append_intercalate_cons _ _ _ _
  have hrest : List.Forall₂ List.Sublist ls (ls.map (indentLine indentation)) :=
    List.forall₂_map_right_iff.mpr (List.forall₂_same.mpr fun m _ => sublist_indentLine indentation m)
  rw [htext, indent, hlines, List.map_cons, indentLine_of_ne_nil _ (List.cons_ne_nil c l)]
  exact unlines_sublist (.cons (List.Sublist.refl _) hrest)

/-- An indented text holds its indentation, and the text from its first line on that is not empty. -/
theorem append_sublist_indent (indentation : Text) (h : ∃ c ∈ s, c ≠ '\n') :
    (indentation ++ s.dropWhile (· = '\n')).Sublist (indent indentation s) := by
  induction s with
  | nil => simp at h
  | cons c s ih =>
    by_cases hc : c = '\n'
    · have hs : ∃ d ∈ s, d ≠ '\n' := by
        obtain ⟨d, hd, hne⟩ := h
        exact ⟨d, (List.mem_cons.mp hd).resolve_left (by rintro rfl; exact hne hc), hne⟩
      have hindent : indent indentation (c :: s) = '\n' :: indent indentation s := by
        rw [hc]
        exact indent_append_newline indentation [] s
      rw [hindent, List.dropWhile_cons_of_pos (by simpa using hc)]
      exact (ih hs).cons '\n'
    · rw [List.dropWhile_cons_of_neg (by simpa using hc)]
      exact append_cons_sublist_indent indentation hc s

end Text

namespace Substitution

open Text

variable {σ : Substitution} {contents value acc piece : Text} {rest : List Text}

/-! ## One step of the one pass -/

/-- What is there stays, whether it is taken away as an indentation or not, and the value and the piece
come after it. -/
theorem sublist_extend (h : ∃ c ∈ value, c ≠ '\n') (acc piece : Text) :
    (acc ++ value.dropWhile (· = '\n') ++ piece).Sublist (extend value acc piece) := by
  conv => lhs; rw [← initialLines_append_lastLine acc, List.append_assoc acc.initialLines]
  rw [extend]
  exact ((append_sublist_indent acc.lastLine h).append_left acc.initialLines).append_right piece

/-- Lines that are finished are not taken away. -/
theorem prefix_extend {before : Text} (h : before ++ ['\n'] <+: acc) (value piece : Text) :
    before ++ ['\n'] <+: extend value acc piece := by
  obtain ⟨line, rfl⟩ := h
  rw [List.append_assoc, List.singleton_append, extend_eq_indented, indented_append_newline]
  exact ⟨indented value line ++ piece, by simp⟩

/-! ## All steps -/

theorem prefix_foldl_extend {before : Text} (h : before ++ ['\n'] <+: acc) (value : Text)
    (rest : List Text) : before ++ ['\n'] <+: rest.foldl (extend value) acc := by
  induction rest generalizing acc with
  | nil => exact h
  | cons p rest ih => exact ih (prefix_extend h value p)

/-- A subsequence of what is there at first goes on as one, with the value and the pieces behind it. -/
theorem sublist_foldl_extend (h : ∃ c ∈ value, c ≠ '\n') {kept : Text} (hk : kept.Sublist acc)
    (rest : List Text) :
    ((value.dropWhile (· = '\n')).intercalate (kept :: rest)).Sublist
      (rest.foldl (extend value) acc) := by
  induction rest generalizing kept acc with
  | nil =>
    rw [List.intercalate_singleton]
    exact hk
  | cons p rest ih =>
    have hstep := ((hk.append_right _).append_right p).trans (sublist_extend h acc p)
    rw [List.intercalate_cons_cons, append_intercalate_cons]
    exact ih hstep

/-! ## The result -/

/-- **What stands around the occurrences is kept.** Let a token that is not empty occur in the contents.
The result starts with all lines before the one that the first occurrence starts on, and ends with what
follows the last occurrence. If the value holds more than line feeds, all text between the occurrences
is there in its order, and with it, between the pieces, the value from its first line on that is not
empty. -/
theorem surroundings_kept (hne : σ.token ≠ []) (h : SplitAt σ.token contents (piece :: rest))
    (hrest : rest ≠ []) :
    piece.initialLines <+: σ.apply contents ∧
      rest.getLast hrest <:+ σ.apply contents ∧
      ((∃ c ∈ σ.value, c ≠ '\n') →
        (piece :: rest).flatten.Sublist (σ.apply contents) ∧
        ((σ.value.dropWhile (· = '\n')).intercalate (piece :: rest)).Sublist (σ.apply contents)) := by
  have happly : σ.apply contents = rest.foldl (extend σ.value) piece := by
    rw [apply_eq_onePass hne, onePass, ← (splitAt_iff hne).mp h]
  rw [happly]
  refine ⟨?_, ?_, fun hvalue => ?_⟩
  · rcases eq_line_or_append piece with hline | ⟨before, line, hline, rfl⟩
    · rw [initialLines_of_not_mem hline]
      exact List.nil_prefix
    · rw [initialLines_append_newline, initialLines_of_not_mem hline]
      exact prefix_foldl_extend ⟨line, by simp⟩ σ.value rest
  · conv => rhs; rw [← List.dropLast_concat_getLast hrest]
    rw [List.foldl_append]
    exact List.suffix_append _ _
  · have hkept := sublist_foldl_extend hvalue (List.Sublist.refl piece) rest
    exact ⟨(flatten_sublist_intercalate _ _).trans hkept, hkept⟩

/-- Two occurrences on an indented line, and a value that starts and ends in empty lines: the line is
taken away twice, and each character of it is still there. -/
theorem surroundings_of_blank_lines :
    let σ : Substitution := { token := "X".toList, value := "\n\nv\n".toList }
    let contents := "head\n  a X, X!\nend".toList
    σ.token ≠ [] ∧
      SplitAt σ.token contents ["head\n  a ".toList, ", ".toList, "!\nend".toList] ∧
      (∃ c ∈ σ.value, c ≠ '\n') ∧
      "head\n".toList <+: σ.apply contents ∧ "!\nend".toList <:+ σ.apply contents ∧
      "head\n  a , !\nend".toList.Sublist (σ.apply contents) := by
  intro σ contents
  have hne : σ.token ≠ [] := by decide
  have hsplit : SplitAt σ.token contents ["head\n  a ".toList, ", ".toList, "!\nend".toList] :=
    (splitAt_iff hne).mpr (by decide)
  have hvalue : ∃ c ∈ σ.value, c ≠ '\n' := ⟨'v', by decide, by decide⟩
  obtain ⟨hfirst, hlast, hkept⟩ := surroundings_kept hne hsplit (List.cons_ne_nil _ _)
  exact ⟨hne, hsplit, hvalue, hfirst, hlast, (hkept hvalue).1⟩

end Substitution

end Scribe
