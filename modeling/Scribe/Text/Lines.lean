/-!
# Text and its lines

`Text` is a list of characters, so that laws of composition are laws of lists. A text with `n` line
feeds has `n + 1` lines. The main facts:

* `unlines_lines`: joining the lines of a text gives it back.
* `lines_unlines`: lines that hold no line feed are found again in their join.
* `initialLines_append_lastLine`: a text is all before its last line, followed by its last line.
* `newline_not_mem_lastLine`: the last line holds no line feed.
-/

namespace Scribe

/-- A text is the list of its characters (Unicode scalar values). -/
abbrev Text := List Char

namespace Text

/-! ## Lines -/

/-- The lines of a text, without the line feeds between them. -/
def lines (s : Text) : List Text := s.splitOn '\n'

/-- Joins lines with one line feed between neighbours. -/
def unlines (ls : List Text) : Text := ['\n'].intercalate ls

theorem lines_ne_nil (s : Text) : s.lines ≠ [] := List.splitOn_ne_nil '\n' s

@[simp] theorem unlines_lines (s : Text) : unlines s.lines = s := List.intercalate_splitOn '\n'

theorem lines_injective : Function.Injective lines :=
  Function.LeftInverse.injective unlines_lines

theorem lines_unlines {ls : List Text} (h : ∀ l ∈ ls, '\n' ∉ l) (hne : ls ≠ []) :
    (unlines ls).lines = ls :=
  List.splitOn_intercalate '\n' h hne

theorem lines_append_newline (s t : Text) : (s ++ '\n' :: t).lines = s.lines ++ t.lines :=
  List.splitOn_append_cons_self s t

theorem lines_of_not_mem {s : Text} (h : '\n' ∉ s) : s.lines = [s] := List.splitOn_eq_singleton h

@[simp] theorem unlines_nil : unlines [] = [] := rfl

@[simp] theorem unlines_singleton (l : Text) : unlines [l] = l := List.intercalate_singleton

@[simp] theorem unlines_cons_cons (l m : Text) (ls : List Text) :
    unlines (l :: m :: ls) = l ++ '\n' :: unlines (m :: ls) := by
  simp [unlines, List.intercalate_cons_cons]

theorem intercalate_append (separator : Text) {ls ms : List Text} (hl : ls ≠ []) (hm : ms ≠ []) :
    separator.intercalate (ls ++ ms) =
      separator.intercalate ls ++ separator ++ separator.intercalate ms := by
  induction ls with
  | nil => exact absurd rfl hl
  | cons l ls ih =>
    cases ls with
    | nil =>
      rw [List.singleton_append, List.intercalate_cons_of_ne_nil hm, List.intercalate_singleton]
    | cons k ls =>
      have hk := List.cons_ne_nil k ls
      rw [List.cons_append, List.intercalate_cons_of_ne_nil (List.append_ne_nil_of_left_ne_nil hk ms),
        ih hk, List.intercalate_cons_of_ne_nil hk]
      simp only [List.append_assoc]

theorem unlines_append {ls ms : List Text} (hl : ls ≠ []) (hm : ms ≠ []) :
    unlines (ls ++ ms) = unlines ls ++ '\n' :: unlines ms := by
  rw [unlines, intercalate_append _ hl hm, List.append_assoc]
  rfl

theorem infix_intercalate_of_mem (separator : Text) {l : Text} {ls : List Text} (h : l ∈ ls) :
    l <:+: separator.intercalate ls := by
  induction ls with
  | nil => cases h
  | cons m ls ih =>
    cases ls with
    | nil =>
      have hone : separator.intercalate [m] = l := by
        rw [List.mem_singleton.mp h, List.intercalate_singleton]
      exact ⟨[], [], by simp [hone]⟩
    | cons k ls =>
      rw [List.intercalate_cons_cons]
      rcases List.mem_cons.mp h with rfl | h
      · rw [List.append_assoc]
        exact (List.prefix_append _ _).isInfix
      · exact (ih h).trans (List.suffix_append _ _).isInfix

/-- What a text is split into stands in it. -/
theorem infix_of_mem_splitOn {c : Char} {s l : Text} (h : l ∈ s.splitOn c) : l <:+: s := by
  have hinfix := infix_intercalate_of_mem [c] h
  rwa [List.intercalate_splitOn] at hinfix

/-- What a text is split into does not hold the character that it is split at. -/
theorem not_mem_of_mem_splitOn {c : Char} {s l : Text} (h : l ∈ s.splitOn c) : c ∉ l := by
  induction s generalizing l with
  | nil => simp_all [List.splitOn_nil]
  | cons d s ih =>
    rw [List.splitOn_cons_eq_if_modifyHead] at h
    by_cases hd : d = c
    · simp only [hd, beq_self_eq_true, if_true, List.mem_cons] at h
      rcases h with rfl | h
      · simp
      · exact ih h
    · simp only [beq_iff_eq, hd, if_false] at h
      obtain ⟨m, ms, hm⟩ := List.exists_cons_of_ne_nil (List.splitOn_ne_nil c s)
      rw [hm, List.modifyHead_cons, List.mem_cons] at h
      rcases h with rfl | h
      · simpa [List.mem_cons, Ne.symm hd] using ih (hm ▸ List.mem_cons_self)
      · exact ih (hm ▸ List.mem_cons_of_mem _ h)

theorem newline_not_mem_of_mem_lines {s l : Text} (h : l ∈ s.lines) : '\n' ∉ l :=
  not_mem_of_mem_splitOn h

/-! ## The last line -/

/-- All of a text after its last line feed. -/
def lastLine (s : Text) : Text := (s.reverse.takeWhile (· != '\n')).reverse

/-- All of a text up to and with its last line feed. -/
def initialLines (s : Text) : Text := (s.reverse.dropWhile (· != '\n')).reverse

@[simp] theorem initialLines_append_lastLine (s : Text) : s.initialLines ++ s.lastLine = s := by
  rw [initialLines, lastLine, ← List.reverse_append, List.takeWhile_append_dropWhile,
    List.reverse_reverse]

theorem newline_not_mem_lastLine (s : Text) : '\n' ∉ s.lastLine := by
  intro h
  have all : (s.reverse.takeWhile (· != '\n')).all (· != '\n') := List.all_takeWhile
  simpa using List.all_eq_true.mp all _ (List.mem_reverse.mp h)

@[simp] theorem lastLine_append_newline (s t : Text) : (s ++ '\n' :: t).lastLine = t.lastLine := by
  simp only [lastLine, List.reverse_append, List.reverse_cons, List.append_assoc]
  congr 1
  generalize t.reverse = r
  induction r with
  | nil => simp
  | cons c r ih => by_cases h : c = '\n' <;> simp_all

theorem initialLines_append_newline (s t : Text) :
    (s ++ '\n' :: t).initialLines = s ++ '\n' :: t.initialLines := by
  have h := initialLines_append_lastLine (s ++ '\n' :: t)
  rw [lastLine_append_newline] at h
  conv at h => rhs; rw [← initialLines_append_lastLine t, ← List.cons_append, ← List.append_assoc]
  exact List.append_cancel_right h

theorem lastLine_append_of_not_mem (s : Text) {t : Text} (h : '\n' ∉ t) :
    (s ++ t).lastLine = s.lastLine ++ t := by
  have all : ∀ c ∈ t.reverse, (c != '\n') = true := fun c hc => by
    simpa using fun e : c = '\n' => h (e ▸ List.mem_reverse.mp hc)
  rw [lastLine, List.reverse_append, List.takeWhile_append_of_pos all, List.reverse_append,
    List.reverse_reverse, lastLine]

theorem lastLine_of_not_mem {s : Text} (h : '\n' ∉ s) : s.lastLine = s := by
  exact lastLine_append_of_not_mem [] h

theorem initialLines_of_not_mem {s : Text} (h : '\n' ∉ s) : s.initialLines = [] := by
  have hs := initialLines_append_lastLine s
  rw [lastLine_of_not_mem h] at hs
  exact List.append_left_eq_self.mp hs

/-- A text is one line, or it is lines, a line feed and one more line. -/
theorem eq_line_or_append (s : Text) :
    '\n' ∉ s ∨ ∃ before line, '\n' ∉ line ∧ s = before ++ '\n' :: line := by
  induction s with
  | nil => exact .inl List.not_mem_nil
  | cons c s ih =>
    rcases ih with hs | ⟨before, line, hl, rfl⟩
    · by_cases hc : c = '\n'
      · exact .inr ⟨[], s, hs, by rw [hc, List.nil_append]⟩
      · exact .inl (by simp [hs, Ne.symm hc])
    · exact .inr ⟨c :: before, line, hl, rfl⟩

/-! ## Size -/

/-- The number of bytes of a text in UTF-8. -/
def utf8Length : Text → Nat
  | [] => 0
  | c :: s => c.utf8Size + utf8Length s

@[simp] theorem utf8Length_nil : utf8Length [] = 0 := rfl

@[simp] theorem utf8Length_append (s t : Text) :
    utf8Length (s ++ t) = utf8Length s + utf8Length t := by
  induction s with
  | nil => simp
  | cons c s ih => rw [List.cons_append, utf8Length, utf8Length, ih, Nat.add_assoc]

end Text

end Scribe
