import Scribe.Proofs.Substitution.Rounds
import Scribe.Proofs.Substitution.Surroundings

/-!
# Substitution and plain replacement

Plain replacement puts a value in the place of each occurrence of a token as it is. To fill a token
takes away what stands before it on its line and puts it back as the indentation of the value. An
indentation holds no line feed, so the two leave the same number of lines. They leave the same text
if the value is one line, and more exactly, if nothing but empty lines follows its first line, and
that one is not empty.

- `Text.replaceAll token value s`: plain replacement, which goes over the text once.
- `apply_rel`: what one step of filling and one of plain replacement keep between them, the whole
  keeps. So it is enough to compare the steps (`count_newline_extend`, `extend_eq_append`).
- `count_newline_apply`: the number of line feeds.
- `Text.OneLine s`: a line that is not empty, with nothing but line feeds behind it. These are the
  texts that an indentation is simply put in front of (`indent_eq_append_iff`).
- `apply_eq_replaceAll_iff`, `apply_eq_replaceAll`: when filling a token is plain replacement.
-/

namespace Scribe

namespace Text

variable {token value s indentation : Text} {c : Char}

/-! ## Plain replacement -/

/-- Every occurrence of a token that is not empty gives way to the value, from left to right. The
search goes on behind the occurrence, and does not go over the value. -/
def replaceAll (token value : Text) : Text → Text
  | [] => []
  | c :: s =>
    if token.isPrefixOf (c :: s) then value ++ replaceAll token value (s.drop (token.length - 1))
    else c :: replaceAll token value s
termination_by s => s.length
decreasing_by
  · simp only [List.length_drop, List.length_cons]
    omega
  · exact Nat.lt_succ_self _

theorem replaceAll_token_append (h : token ≠ []) (value s : Text) :
    replaceAll token value (token ++ s) = value ++ replaceAll token value s := by
  obtain ⟨c, t, rfl⟩ := List.exists_cons_of_ne_nil h
  have hstart : (c :: t).isPrefixOf (c :: (t ++ s)) :=
    List.isPrefixOf_iff_prefix.mpr (List.prefix_append (c :: t) s)
  rw [List.cons_append, replaceAll, if_pos hstart, List.length_cons, Nat.add_sub_cancel,
    List.drop_left]

theorem replaceAll_cons_of_not_starts (h : ¬ token <+: c :: s) (value : Text) :
    replaceAll token value (c :: s) = c :: replaceAll token value s := by
  rw [replaceAll, if_neg (mt List.isPrefixOf_iff_prefix.mp h)]

theorem replaceAll_of_cut?_eq_none (h : cut? token s = none) (value : Text) :
    replaceAll token value s = s := by
  induction s with
  | nil => rw [replaceAll]
  | cons c s ih =>
    have habsent := cut?_eq_none_iff.mp h
    have hstart : ¬ token <+: c :: s := fun hp => habsent hp.isInfix
    have hs : cut? token s = none := cut?_eq_none_iff.mpr fun hi => habsent (List.infix_cons hi)
    rw [replaceAll_cons_of_not_starts hstart, ih hs]

/-- What stands before the first occurrence is kept, and the rest is gone over behind it. -/
theorem replaceAll_of_cut? (hne : token ≠ []) {before after : Text}
    (h : cut? token s = some (before, after)) (value : Text) :
    replaceAll token value s = before ++ value ++ replaceAll token value after := by
  induction s generalizing before with
  | nil => simp [cut?, hne] at h
  | cons c s ih =>
    by_cases hstart : token <+: c :: s
    · obtain ⟨t, ht⟩ := hstart
      rw [← ht, cut?_of_append] at h
      obtain ⟨rfl, rfl⟩ := Prod.mk.inj (Option.some.inj h)
      rw [← ht, replaceAll_token_append hne, List.nil_append]
    · rw [cut?_cons_of_not_starts hstart] at h
      obtain ⟨⟨b, a⟩, hb, he⟩ := Option.map_eq_some_iff.mp h
      obtain ⟨rfl, rfl⟩ := Prod.mk.inj he
      rw [replaceAll_cons_of_not_starts hstart, ih hb]
      rfl

/-- Plain replacement joins the pieces between the occurrences with the value. -/
theorem SplitAt.replaceAll_eq (hne : token ≠ []) {ps : List Text} (h : SplitAt token s ps)
    (value : Text) : replaceAll token value s = value.intercalate ps := by
  induction h with
  | last none =>
    rw [replaceAll_of_cut?_eq_none (cut?_eq_none_iff.mpr none), List.intercalate_singleton]
  | @next before after ps first rest ih =>
    rw [replaceAll_of_cut? hne (cut?_of_first after hne first), ih,
      List.intercalate_cons_of_ne_nil rest.ne_nil]

/-- Joining is putting one text after the other, with the separator between them. -/
theorem intercalate_cons_eq_foldl (separator s : Text) (ls : List Text) :
    separator.intercalate (s :: ls) = ls.foldl (fun done l => done ++ separator ++ l) s := by
  induction ls generalizing s with
  | nil => exact List.intercalate_singleton
  | cons l ls ih =>
    rw [List.intercalate_cons_cons, append_intercalate_cons, ih, List.foldl_cons]

/-! ## Counting -/

/-- Texts that are joined in two ways differ in what the separators have of a character. -/
theorem count_intercalate (c : Char) (separator separator' s : Text) (ls : List Text) :
    (separator.intercalate (s :: ls)).count c + ls.length * separator'.count c =
      (separator'.intercalate (s :: ls)).count c + ls.length * separator.count c := by
  induction ls generalizing s with
  | nil =>
    rw [List.intercalate_singleton, List.intercalate_singleton, List.length_nil, Nat.zero_mul,
      Nat.zero_mul]
  | cons l ls ih =>
    have hrest := ih l
    simp only [List.intercalate_cons_cons, List.count_append, List.length_cons, Nat.add_mul,
      Nat.one_mul]
    omega

theorem count_newline_unlines {l : Text} {ls : List Text} (h : ∀ m ∈ l :: ls, '\n' ∉ m) :
    (unlines (l :: ls)).count '\n' = ls.length := by
  have hl : l.count '\n' = 0 := List.count_eq_zero_of_not_mem (h l List.mem_cons_self)
  induction ls generalizing l with
  | nil =>
    rw [unlines_singleton, hl]
    rfl
  | cons m ls ih =>
    have hls : ∀ k ∈ m :: ls, '\n' ∉ k := fun k hk => h k (List.mem_cons_of_mem l hk)
    have hm : m.count '\n' = 0 := List.count_eq_zero_of_not_mem (hls m List.mem_cons_self)
    rw [unlines_cons_cons, List.count_append, hl, List.count_cons_self, ih hls hm, List.length_cons,
      Nat.zero_add]

/-- A text has one line more than line feeds. -/
theorem length_lines (s : Text) : s.lines.length = s.count '\n' + 1 := by
  obtain ⟨l, ls, hls⟩ := List.exists_cons_of_ne_nil (lines_ne_nil s)
  have hcount := count_newline_unlines fun m hm => newline_not_mem_of_mem_lines (s := s) (hls ▸ hm)
  rw [← hls, unlines_lines] at hcount
  rw [hls, hcount, List.length_cons]

/-- To indent a text makes no lines. -/
theorem count_newline_indent (h : '\n' ∉ indentation) (s : Text) :
    (indent indentation s).count '\n' = s.count '\n' := by
  have hlength := congrArg List.length (lines_indent h s)
  rw [List.length_map, length_lines, length_lines] at hlength
  exact Nat.succ.inj hlength

/-- Plain replacement takes the characters of the token away and puts those of the value there, as
often as the token occurs. -/
theorem SplitAt.count_replaceAll (hne : token ≠ []) {p : Text} {ps : List Text}
    (h : SplitAt token s (p :: ps)) (value : Text) (c : Char) :
    (replaceAll token value s).count c + ps.length * token.count c =
      s.count c + ps.length * value.count c := by
  rw [h.replaceAll_eq hne, count_intercalate c value token, h.intercalate_eq]

/-! ## Indentations that only stand in front -/

/-- A line that is not empty, and nothing but line feeds behind it. -/
def OneLine (s : Text) : Prop :=
  ∃ line n, line ≠ [] ∧ '\n' ∉ line ∧ s = line ++ List.replicate n '\n'

theorem oneLine_of_not_mem (hne : s ≠ []) (h : '\n' ∉ s) : OneLine s :=
  ⟨s, 0, hne, h, (List.append_nil s).symm⟩

/-- What holds no line feed and stands before a text, stands before its first line. -/
theorem lines_append_of_not_mem {a : Text} (h : '\n' ∉ a) {l : Text} {ls : List Text}
    (hs : s.lines = l :: ls) : (a ++ s).lines = (a ++ l) :: ls := by
  have hnone : ∀ m ∈ l :: ls, '\n' ∉ m := fun m hm => newline_not_mem_of_mem_lines (hs ▸ hm)
  have hfirst : '\n' ∉ a ++ l := by
    rw [List.mem_append, not_or]
    exact ⟨h, hnone l List.mem_cons_self⟩
  have htext : a ++ s = unlines ((a ++ l) :: ls) := by
    conv => lhs; rw [← unlines_lines s, hs]
    exact append_intercalate_cons _ _ _ _
  rw [htext]
  refine lines_unlines (fun m hm => ?_) (List.cons_ne_nil _ _)
  rcases List.mem_cons.mp hm with rfl | hm
  · exact hfirst
  · exact hnone m (List.mem_cons_of_mem l hm)

theorem lines_append_replicate {line : Text} (h : '\n' ∉ line) (n : Nat) :
    (line ++ List.replicate n '\n').lines = line :: List.replicate n [] := by
  induction n with
  | zero => rw [List.replicate_zero, List.append_nil, lines_of_not_mem h, List.replicate_zero]
  | succ n ih =>
    rw [List.replicate_succ', ← List.append_assoc, lines_append_newline, ih, List.replicate_succ']
    rfl

/-- By its lines: the first one is not empty, and all others are. -/
theorem oneLine_iff {l : Text} {ls : List Text} (h : s.lines = l :: ls) :
    OneLine s ↔ l ≠ [] ∧ ∀ m ∈ ls, m = [] := by
  constructor
  · rintro ⟨line, n, hne, hline, rfl⟩
    rw [lines_append_replicate hline, List.cons.injEq] at h
    obtain ⟨rfl, rfl⟩ := h
    exact ⟨hne, fun m hm => List.eq_of_mem_replicate hm⟩
  · rintro ⟨hne, hrest⟩
    have hline : '\n' ∉ l := newline_not_mem_of_mem_lines (h ▸ List.mem_cons_self)
    refine ⟨l, ls.length, hne, hline, lines_injective ?_⟩
    rw [h, lines_append_replicate hline, ← List.eq_replicate_of_mem hrest]

theorem indentLine_eq_self_iff (hne : indentation ≠ []) {l : Text} :
    indentLine indentation l = l ↔ l = [] := by
  by_cases hl : l = []
  · simp [hl]
  · simp [indentLine_of_ne_nil _ hl, hl, hne]

theorem indentLine_eq_append_iff (hne : indentation ≠ []) {l : Text} :
    indentLine indentation l = indentation ++ l ↔ l ≠ [] := by
  by_cases hl : l = []
  · simp [hl, hne.symm]
  · simp [indentLine_of_ne_nil _ hl, hl]

@[simp] theorem indent_nil_indentation (s : Text) : indent [] s = s := by
  have hline : ∀ l : Text, indentLine [] l = l := fun l => by
    by_cases hl : l = []
    · rw [hl, indentLine_nil]
    · rw [indentLine_of_ne_nil _ hl, List.nil_append]
  rw [indent, List.map_congr_left fun l _ => hline l, List.map_id', unlines_lines]

/-- An indentation is put in front of a text and nowhere else if and only if the text is one line. -/
theorem indent_eq_append_iff (hne : indentation ≠ []) (h : '\n' ∉ indentation) :
    indent indentation s = indentation ++ s ↔ OneLine s := by
  obtain ⟨l, ls, hls⟩ := List.exists_cons_of_ne_nil (lines_ne_nil s)
  have hrest : ls.map (indentLine indentation) = ls ↔ ∀ m ∈ ls, m = [] := by
    conv => lhs; rhs; rw [← List.map_id' ls]
    rw [List.map_inj_left]
    exact forall₂_congr fun m _ => indentLine_eq_self_iff hne
  rw [← lines_injective.eq_iff, lines_indent h, lines_append_of_not_mem h hls, hls, List.map_cons,
    List.cons.injEq, indentLine_eq_append_iff hne, hrest, oneLine_iff hls]

end Text

namespace Substitution

open Text

variable {σ : Substitution} {contents value : Text}

/-! ## One step -/

/-- To fill an occurrence leaves as many line feeds as to replace it. -/
theorem count_newline_extend (value acc piece : Text) :
    (extend value acc piece).count '\n' = (acc ++ value ++ piece).count '\n' := by
  have hlast := newline_not_mem_lastLine acc
  conv => rhs; rw [← initialLines_append_lastLine acc]
  simp only [extend, List.count_append, count_newline_indent hlast,
    List.count_eq_zero_of_not_mem hlast, Nat.add_zero]

/-- Before a value that is one line, what stands on the line of the occurrence stays there. -/
theorem extend_eq_append (h : OneLine value) (acc piece : Text) :
    extend value acc piece = acc ++ value ++ piece := by
  have hindent : indent acc.lastLine value = acc.lastLine ++ value := by
    by_cases hlast : acc.lastLine = []
    · rw [hlast, indent_nil_indentation, List.nil_append]
    · exact (indent_eq_append_iff hlast (newline_not_mem_lastLine acc)).mpr h
  rw [extend, hindent, ← List.append_assoc, initialLines_append_lastLine]

/-! ## All steps -/

/-- What each step keeps between a filled text and a replaced one holds between the results. -/
theorem apply_rel {r : Text → Text → Prop} (hne : σ.token ≠ []) (hrefl : ∀ s, r s s)
    (hstep : ∀ acc done piece, r acc done → r (extend σ.value acc piece) (done ++ σ.value ++ piece))
    (contents : Text) : r (σ.apply contents) (replaceAll σ.token σ.value contents) := by
  obtain ⟨piece, rest, hp⟩ := List.exists_cons_of_ne_nil (pieces_ne_nil hne contents)
  have hsplit := splitAt_pieces hne contents
  rw [hp] at hsplit
  rw [hsplit.replaceAll_eq hne, intercalate_cons_eq_foldl, apply_eq_onePass hne, onePass, hp]
  exact List.foldl_rel (hrefl piece) fun p _ acc done h => hstep acc done p h

/-! ## Lines -/

/-- **The line feeds of a result.** Filling a token takes away those of each occurrence and brings
those of the value, as often as the token occurs from left to right without overlap. What is put
before the lines of the value adds none, whatever it holds of values that were put on the same line
before it, and what is left out before empty lines takes none away. -/
theorem count_newline_apply (hne : σ.token ≠ []) (contents : Text) :
    ∃ piece rest, SplitAt σ.token contents (piece :: rest) ∧
      (σ.apply contents).count '\n' + rest.length * σ.token.count '\n' =
        contents.count '\n' + rest.length * σ.value.count '\n' := by
  have hcount : (σ.apply contents).count '\n' =
      (replaceAll σ.token σ.value contents).count '\n' := by
    refine apply_rel (r := fun s t => s.count '\n' = t.count '\n') hne (fun _ => rfl)
      (fun acc done piece h => ?_) contents
    rw [count_newline_extend]
    simp only [List.count_append, h]
  have hsplit := splitAt_pieces hne contents
  obtain ⟨piece, rest, hp⟩ := List.exists_cons_of_ne_nil hsplit.ne_nil
  rw [hp] at hsplit
  exact ⟨piece, rest, hsplit, hcount ▸ hsplit.count_replaceAll hne σ.value '\n'⟩

/-- A token of two lines that occurs twice in a row, and a value of four lines of which one is empty.
Three line feeds stand in the contents, two of them in the occurrences, and seven in the result. -/
theorem count_newline_block :
    let σ : Substitution := { token := "X\n".toList, value := "a\n\nb\n".toList }
    let contents := "\n  X\nX\n.".toList
    σ.token ≠ [] ∧ SplitAt σ.token contents ["\n  ".toList, [], ".".toList] ∧
      (σ.apply contents).count '\n' + 2 * 1 = 3 + 2 * 3 := by
  intro σ contents
  have hne : σ.token ≠ [] := by decide
  obtain ⟨piece, rest, hsplit, hcount⟩ := count_newline_apply hne contents
  have hpieces : piece :: rest = ["\n  ".toList, [], ".".toList] := by
    rw [(splitAt_iff hne).mp hsplit]
    decide
  obtain ⟨rfl, rfl⟩ := List.cons.inj hpieces
  exact ⟨hne, hsplit, hcount⟩

/-! ## When filling a token is plain replacement -/

/-- Behind a character that the token does not start with, the value is indented by it. -/
theorem apply_cons_token {c : Char} {t : Text} (ht : σ.token = c :: t) {d : Char} (hd : d ≠ c) :
    σ.apply (d :: σ.token) = extend σ.value [d] [] ∧
      replaceAll σ.token σ.value (d :: σ.token) = d :: σ.value := by
  have hne : σ.token ≠ [] := ht ▸ List.cons_ne_nil c t
  have hstart : ¬ σ.token <+: d :: σ.token := by
    conv => arg 1; lhs; rw [ht]
    rw [List.cons_prefix_cons, not_and]
    exact fun hc => absurd hc.symm hd
  have hself : σ.token = σ.token ++ [] := (List.append_nil _).symm
  constructor
  · have hpieces : pieces σ.token (d :: σ.token) = [[d], []] := by
      rw [pieces_cons_of_not_starts hstart]
      conv => lhs; arg 2; arg 2; rw [hself]
      rw [pieces_token_append hne, pieces_nil, List.modifyHead_cons]
    rw [apply_eq_onePass hne, onePass, hpieces]
    rfl
  · rw [replaceAll_cons_of_not_starts hstart]
    conv => lhs; arg 2; arg 3; rw [hself]
    rw [replaceAll_token_append hne, replaceAll, List.append_nil]

/-- Filling a token is plain replacement in all contents just for a value that is one line. -/
theorem apply_eq_replaceAll_iff (hne : σ.token ≠ []) :
    (∀ contents, σ.apply contents = replaceAll σ.token σ.value contents) ↔ OneLine σ.value := by
  constructor
  · intro h
    obtain ⟨c, t, ht⟩ := List.exists_cons_of_ne_nil hne
    obtain ⟨d, hd, hline⟩ : ∃ d : Char, d ≠ c ∧ '\n' ∉ [d] := by
      by_cases hc : c = 'a'
      · exact ⟨'b', by rw [hc]; decide, by decide⟩
      · exact ⟨'a', Ne.symm hc, by decide⟩
    obtain ⟨hfilled, hplain⟩ := apply_cons_token ht hd
    have hindent : indent [d] σ.value = [d] ++ σ.value := by
      have heq := h (d :: σ.token)
      rwa [hfilled, hplain, extend, lastLine_of_not_mem hline, initialLines_of_not_mem hline,
        List.nil_append, List.append_nil] at heq
    exact (indent_eq_append_iff (List.cons_ne_nil d []) hline).mp hindent
  · intro h contents
    refine apply_rel hne (fun _ => rfl) (fun acc done piece heq => ?_) contents
    rw [extend_eq_append h, heq]

/-- **A value of one line is put there as it is.** For a value that is not empty and holds no line
feed, filling a token is plain replacement of its leftmost occurrences that do not overlap, though
each of them takes away the whole line before it, with the values that are already on it. The token
may hold line feeds. One that holds none is filled with itself and nothing changes. -/
theorem apply_eq_replaceAll (hne : σ.token ≠ []) :
    (σ.value ≠ [] → '\n' ∉ σ.value →
      ∀ contents, σ.apply contents = replaceAll σ.token σ.value contents) ∧
    ('\n' ∉ σ.token → ∀ contents, (Substitution.mk σ.token σ.token).apply contents = contents) := by
  refine ⟨fun hvalue hline => ?_, fun hline contents => ?_⟩
  · exact (apply_eq_replaceAll_iff hne).mpr (oneLine_of_not_mem hvalue hline)
  · have hsplit := splitAt_pieces hne contents
    rw [(apply_eq_replaceAll_iff (σ := ⟨σ.token, σ.token⟩) hne).mpr (oneLine_of_not_mem hne hline),
      hsplit.replaceAll_eq hne, hsplit.intercalate_eq]

/-- A token that goes over two lines, twice on an indented line, and a value that holds its start. -/
theorem apply_eq_replaceAll_two_lines :
    let σ : Substitution := { token := "X\nY".toList, value := "(X)".toList }
    let contents := "p\n  X\nYX\nY, X\nZ".toList
    σ.token ≠ [] ∧ σ.value ≠ [] ∧ '\n' ∉ σ.value ∧
      σ.apply contents = replaceAll σ.token σ.value contents ∧
      replaceAll σ.token σ.value contents = "p\n  (X)(X), X\nZ".toList := by
  intro σ contents
  have hne : σ.token ≠ [] := by decide
  have hvalue : σ.value ≠ [] := by decide
  have hline : '\n' ∉ σ.value := by decide
  refine ⟨hne, hvalue, hline, (apply_eq_replaceAll hne).1 hvalue hline contents, ?_⟩
  rw [(splitAt_pieces hne contents).replaceAll_eq hne]
  decide

end Substitution

end Scribe
