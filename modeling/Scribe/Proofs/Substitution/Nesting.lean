import Scribe.Proofs.Substitution.Lines

/-!
# Filling a nested token before or after it is inserted

A value may hold a token of its own. It makes no difference whether that token is filled in the value
or later, in the text that the value was put into, as long as nothing there takes part in it.

- `Text.hang`: an indentation also before a last line that is empty, which is how the lines of a value
  stand in a text. The one pass over the pieces of a line commutes with it (`resume_hang`).
- `apply_append_left`: a line after an indentation is filled and then indented.
- `StandsClear token other line`: a token stands on a line once at most, and clear of another token.
- `apply_apply_nested`: the two orders give the same text.
-/

namespace Scribe

namespace Text

variable {indentation s t : Text}

/-! ## Hanging texts -/

/-- A text with an indentation before each line that is not empty, and before its last line in any
case. -/
def hang (indentation s : Text) : Text :=
  indent indentation s.initialLines ++ (indentation ++ s.lastLine)

theorem hang_of_not_mem (indentation : Text) (h : '\n' ∉ s) : hang indentation s = indentation ++ s := by
  rw [hang, initialLines_of_not_mem h, lastLine_of_not_mem h]
  rfl

theorem hang_append_newline (indentation s t : Text) :
    hang indentation (s ++ '\n' :: t) = indent indentation s ++ '\n' :: hang indentation t := by
  rw [hang, hang, initialLines_append_newline, lastLine_append_newline, indent_append_newline]
  simp

/-- What is added to the last line is not indented once more. -/
theorem hang_append (indentation s : Text) (h : '\n' ∉ t) :
    hang indentation (s ++ t) = hang indentation s ++ t := by
  rcases eq_line_or_append s with hs | ⟨before, line, hl, rfl⟩
  · rw [hang_of_not_mem _ hs, hang_of_not_mem _ (by simp [hs, h]), List.append_assoc]
  · rw [List.append_assoc, List.cons_append, hang_append_newline, hang_append_newline,
      hang_of_not_mem _ hl, hang_of_not_mem _ (by simp [hl, h])]
    simp

theorem hang_eq_indent (indentation : Text) (h : s.lastLine ≠ []) :
    hang indentation s = indent indentation s := by
  rcases eq_line_or_append s with hs | ⟨before, line, hl, rfl⟩
  · rw [lastLine_of_not_mem hs] at h
    rw [hang_of_not_mem _ hs, indent_of_not_mem _ hs, indentLine_of_ne_nil _ h]
  · rw [lastLine_append_newline, lastLine_of_not_mem hl] at h
    rw [hang_append_newline, indent_append_newline, hang_of_not_mem _ hl, indent_of_not_mem _ hl,
      indentLine_of_ne_nil _ h]

theorem lastLine_indent (hi : '\n' ∉ indentation) (s : Text) :
    (indent indentation s).lastLine = indentLine indentation s.lastLine := by
  have hline : ∀ line : Text, '\n' ∉ line → (indent indentation line).lastLine =
      indentLine indentation line := by
    intro line hl
    rw [indent_of_not_mem _ hl, lastLine_of_not_mem]
    by_cases hne : line = [] <;> simp [indentLine, hne, hi, hl]
  rcases eq_line_or_append s with hs | ⟨before, line, hl, rfl⟩
  · rw [hline s hs, lastLine_of_not_mem hs]
  · rw [indent_append_newline, lastLine_append_newline, hline line hl, lastLine_append_newline,
      lastLine_of_not_mem hl]

/-! ## Pieces -/

/-- The pieces of a text hold no other characters than the text. -/
theorem mem_of_mem_pieces {token : Text} (hne : token ≠ []) {c : Char} {p : Text}
    (hp : p ∈ pieces token s) (hc : c ∈ p) : c ∈ s := by
  have hinfix := infix_intercalate_of_mem token hp
  rw [intercalate_pieces hne] at hinfix
  exact hinfix.subset hc

/-- A token stands on a line once at most, and what stands beside it takes no part in another token:
no end of the text before it starts the other token, and no start of the text after it ends it. -/
structure StandsClear (token other line : Text) : Prop where
  once : occurrences token line ≤ 1
  before : ∀ left right, cut? token line = some (left, right) →
    ∀ s, s ≠ [] → s <:+ left → ¬ s <+: other
  after : ∀ left right, cut? token line = some (left, right) →
    ∀ s, s ≠ [] → s <+: right → ¬ s <:+ other

theorem standsClear_iff {token other line : Text} :
    StandsClear token other line ↔ occurrences token line ≤ 1 ∧
      ∀ cut ∈ cut? token line, (∀ s ∈ cut.1.tails, s ≠ [] → ¬ s <+: other) ∧
        ∀ s ∈ cut.2.inits, s ≠ [] → ¬ s <:+ other := by
  constructor
  · intro h
    refine ⟨h.once, fun cut hcut => ⟨fun s hs hne => ?_, fun s hs hne => ?_⟩⟩
    · exact h.before cut.1 cut.2 hcut s hne ((List.mem_tails s _).mp hs)
    · exact h.after cut.1 cut.2 hcut s hne ((List.mem_inits s _).mp hs)
  · rintro ⟨honce, hclear⟩
    refine ⟨honce, fun left right hcut s hne hs => ?_, fun left right hcut s hne hs => ?_⟩
    · exact (hclear (left, right) hcut).1 s ((List.mem_tails s _).mpr hs) hne
    · exact (hclear (left, right) hcut).2 s ((List.mem_inits s _).mpr hs) hne

instance (token other line : Text) : Decidable (StandsClear token other line) :=
  decidable_of_iff _ standsClear_iff.symm

end Text

namespace Substitution

open Text

variable {σ : Substitution} {value indentation a b : Text}

/-! ## One pass behind an indentation -/

/-- A value that ends in a line that is not empty can be put in before the text is indented, or
after. -/
theorem indented_hang (hi : '\n' ∉ indentation) (hv : value.lastLine ≠ []) (acc : Text) :
    indented value (hang indentation acc) = hang indentation (indented value acc) := by
  have hline : ∀ line : Text, '\n' ∉ line →
      indented value (hang indentation line) = hang indentation (indented value line) := by
    intro line hl
    have hlast : (indent line value).lastLine ≠ [] := by
      rw [lastLine_indent hl, indentLine_of_ne_nil _ hv]
      exact List.append_ne_nil_of_right_ne_nil _ hv
    have hil : '\n' ∉ indentation ++ line := by simp [hi, hl]
    rw [hang_of_not_mem _ hl, indented, indented, initialLines_of_not_mem hl, lastLine_of_not_mem hl,
      initialLines_of_not_mem hil, lastLine_of_not_mem hil, List.nil_append, List.nil_append,
      hang_eq_indent _ hlast, indent_indent _ hl]
  rcases eq_line_or_append acc with hs | ⟨before, line, hl, rfl⟩
  · exact hline acc hs
  · rw [hang_append_newline, indented_append_newline, hline line hl, indented_append_newline,
      hang_append_newline]

theorem resume_hang (hi : '\n' ∉ indentation) (hv : value.lastLine ≠ []) (done : Text)
    {ps : List Text} (hps : ∀ p ∈ ps, '\n' ∉ p) :
    resume value (hang indentation done) ps = hang indentation (resume value done ps) := by
  induction ps generalizing done with
  | nil => rfl
  | cons p ps ih =>
    have hp := hps p List.mem_cons_self
    cases ps with
    | nil =>
      show hang indentation done ++ p = hang indentation (done ++ p)
      rw [hang_append _ _ hp]
    | cons r ps =>
      have hr := List.cons_ne_nil r ps
      rw [resume_cons _ _ _ hr, resume_cons _ _ _ hr, ← hang_append _ _ hp, indented_hang hi hv]
      exact ih _ fun q hq => hps q (List.mem_cons_of_mem _ hq)

theorem lastLine_indented_ne_nil (hv : value.lastLine ≠ []) (acc : Text) :
    (indented value acc).lastLine ≠ [] := by
  have hline : ∀ line : Text, '\n' ∉ line → (indented value line).lastLine ≠ [] := by
    intro line hl
    rw [indented, initialLines_of_not_mem hl, lastLine_of_not_mem hl, List.nil_append,
      lastLine_indent hl, indentLine_of_ne_nil _ hv]
    exact List.append_ne_nil_of_right_ne_nil _ hv
  rcases eq_line_or_append acc with hs | ⟨before, line, hl, rfl⟩
  · exact hline acc hs
  · rw [indented_append_newline, lastLine_append_newline]
    exact hline line hl

/-- A last line that is not empty stays so. -/
theorem lastLine_resume_ne_nil (hv : value.lastLine ≠ []) {done : Text} (hd : done.lastLine ≠ [])
    {ps : List Text} (hps : ∀ p ∈ ps, '\n' ∉ p) : (resume value done ps).lastLine ≠ [] := by
  induction ps generalizing done with
  | nil => exact hd
  | cons p ps ih =>
    cases ps with
    | nil =>
      show (done ++ p).lastLine ≠ []
      rw [lastLine_append_of_not_mem _ (hps p List.mem_cons_self)]
      exact List.append_ne_nil_of_left_ne_nil hd p
    | cons r ps =>
      rw [resume_cons _ _ _ (List.cons_ne_nil r ps)]
      exact ih (lastLine_indented_ne_nil hv _) fun q hq => hps q (List.mem_cons_of_mem _ hq)

theorem lastLine_apply_ne_nil (hv : σ.value.lastLine ≠ []) (hne : a ≠ []) (ha : '\n' ∉ a) :
    (σ.apply a).lastLine ≠ [] := by
  by_cases ht : σ.token = []
  · rwa [apply_of_token_eq_nil ht, lastLine_of_not_mem ha]
  · have hmem : ∀ p ∈ pieces σ.token a, '\n' ∉ p := fun p hp hn => ha (mem_of_mem_pieces ht hp hn)
    have hjoin := intercalate_pieces ht a
    obtain ⟨p, ps, hps⟩ := List.exists_cons_of_ne_nil (pieces_ne_nil ht a)
    rw [apply_eq_onePass ht, onePass_eq_resume]
    rw [hps] at hmem hjoin ⊢
    cases ps with
    | nil =>
      -- nothing is filled
      rw [List.intercalate_singleton] at hjoin
      show Text.lastLine ([] ++ p) ≠ []
      rwa [List.nil_append, hjoin, lastLine_of_not_mem ha]
    | cons r ps =>
      rw [resume_cons _ _ _ (List.cons_ne_nil r ps)]
      exact lastLine_resume_ne_nil hv (lastLine_indented_ne_nil hv _)
        fun q hq => hmem q (List.mem_cons_of_mem _ hq)

/-! ## Indentations that hold no part of the token -/

/-- An indentation of which no end starts the token takes no part in any occurrence. -/
theorem apart_left {token left : Text} (h : ∀ s, s ≠ [] → s <:+ left → ¬ s <+: token) (b : Text) :
    Apart token left b := by
  intro s t hs _ hsne _ he
  exact h s hsne hs ⟨t, he.symm⟩

/-- What has no start that ends the token takes no part in any occurrence. -/
theorem apart_right {token right : Text} (h : ∀ s, s ≠ [] → s <+: right → ¬ s <:+ token) (a : Text) :
    Apart token a right := by
  intro s t _ ht _ htne he
  exact h t htne ht ⟨s, he.symm⟩

/-- A line behind an indentation is filled and then indented. -/
theorem apply_append_left (hi : '\n' ∉ indentation) (hv : σ.value.lastLine ≠ [])
    (habsent : ¬ σ.token <:+: indentation)
    (hclear : ∀ s, s ≠ [] → s <:+ indentation → ¬ s <+: σ.token) (ha : '\n' ∉ a) :
    σ.apply (indentLine indentation a) = indent indentation (σ.apply a) := by
  have hne : σ.token ≠ [] := fun he => habsent (he ▸ List.nil_infix)
  have hmem : ∀ p ∈ pieces σ.token a, '\n' ∉ p := fun p hp hn => ha (mem_of_mem_pieces hne hp hn)
  by_cases ha' : a = []
  · rw [ha', indentLine_nil, apply_nil]
    rfl
  · have hstart : indentation = hang indentation [] := by
      rw [hang_of_not_mem _ List.not_mem_nil, List.append_nil]
    calc σ.apply (indentLine indentation a)
        = resume σ.value indentation (pieces σ.token a) := by
          rw [indentLine_of_ne_nil _ ha', apply_append hne (apart_left hclear a),
            apply_of_absent habsent]
      _ = hang indentation (resume σ.value [] (pieces σ.token a)) := by
          conv => lhs; rw [hstart]
          exact resume_hang hi hv [] hmem
      _ = indent indentation (σ.apply a) := by
          rw [← onePass_eq_resume, ← apply_eq_onePass hne,
            hang_eq_indent _ (lastLine_apply_ne_nil hv ha' ha)]

/-- Lines behind an indentation are filled and then indented. -/
theorem apply_indent (ht : '\n' ∉ σ.token) (hi : '\n' ∉ indentation) (hv : σ.value.lastLine ≠ [])
    (habsent : ¬ σ.token <:+: indentation)
    (hclear : ∀ s, s ≠ [] → s <:+ indentation → ¬ s <+: σ.token) (s : Text) :
    σ.apply (indent indentation s) = indent indentation (σ.apply s) := by
  have hs : σ.apply s = unlines (s.lines.map σ.apply) := by
    conv => lhs; rw [← unlines_lines s, apply_unlines ht]
  rw [hs, indent_unlines, indent, apply_unlines ht, List.map_map, List.map_map]
  refine congrArg unlines (List.map_congr_left fun l hl => ?_)
  exact apply_append_left hi hv habsent hclear (newline_not_mem_of_mem_lines hl)

/-! ## Nested tokens -/

/-- A line on which a token occurs once. -/
theorem apply_line {left right : Text} (hne : σ.token ≠ []) (hleft : '\n' ∉ left)
    (hcut : cut? σ.token a = some (left, right)) (honce : occurrences σ.token a ≤ 1) :
    σ.apply a = indent left σ.value ++ right := by
  obtain ⟨p, ps, hps⟩ := List.exists_cons_of_ne_nil (pieces_ne_nil hne right)
  have hright : pieces σ.token right = [right] := by
    have hjoin := intercalate_pieces hne right
    rw [occurrences, pieces_of_cut? hne hcut, hps, List.length_cons, List.length_cons] at honce
    have : ps = [] := List.length_eq_zero_iff.mp (by omega)
    rw [hps, this, List.intercalate_singleton] at hjoin
    rw [hps, this, hjoin]
  rw [apply_eq_onePass hne, onePass, pieces_of_cut? hne hcut, hright]
  show extend σ.value left right = _
  rw [extend, initialLines_of_not_mem hleft, lastLine_of_not_mem hleft, List.nil_append]

theorem apply_apply_line {outer inner : Substitution} {line : Text} (hinner : '\n' ∉ inner.token)
    (hline : '\n' ∉ line) (habsent : ¬ inner.token <:+: line)
    (hclear : StandsClear outer.token inner.token line) (hlast : inner.value.lastLine ≠ []) :
    inner.apply (outer.apply line) =
      ({ outer with value := inner.apply outer.value } : Substitution).apply line := by
  generalize hτ : ({ outer with value := inner.apply outer.value } : Substitution) = τ
  have htoken : τ.token = outer.token := by rw [← hτ]
  have hvalue : τ.value = inner.apply outer.value := by rw [← hτ]
  by_cases hne : outer.token = []
  · rw [apply_of_token_eq_nil hne, apply_of_token_eq_nil (htoken.trans hne),
      apply_of_absent habsent]
  · cases hcut : cut? outer.token line with
    | none =>
      have hnone := cut?_eq_none_iff.mp hcut
      rw [apply_of_absent hnone, apply_of_absent habsent,
        apply_of_absent (a := line) (htoken ▸ hnone)]
    | some cut =>
      obtain ⟨left, right⟩ := cut
      have hparts := eq_of_cut? hcut
      have hleft : '\n' ∉ left := fun h => hline (by simp [hparts, h])
      have hin : inner.token ≠ [] := fun he => habsent (he ▸ List.nil_infix)
      have habsentLeft : ¬ inner.token <:+: left := fun h =>
        habsent (h.trans ⟨[], outer.token ++ right, by simp [hparts]⟩)
      have habsentRight : ¬ inner.token <:+: right := fun h =>
        habsent (h.trans ⟨left ++ outer.token, [], by simp [hparts]⟩)
      have hlater : τ.apply line = indent left τ.value ++ right :=
        apply_line (by rwa [htoken]) hleft (by rw [htoken, hcut]) (by rw [htoken]; exact hclear.once)
      rw [apply_line hne hleft hcut hclear.once, hlater, hvalue,
        apply_append hin (apart_right (hclear.after left right hcut) _),
        apply_indent hinner hleft hlast habsentLeft (hclear.before left right hcut),
        pieces_of_cut?_eq_none (cut?_eq_none_iff.mpr habsentRight)]
      rfl

/-- **Nested tokens may be filled early or late.** Let a token stand on each line of a text once at
most, and clear of a second one, which does not occur in the text. Then the second one may be filled
after the value of the first has been put in, or in that value, however often and wherever it occurs
there. The value of the second has to end in a line that is not empty: an empty one would drop the
indentation that stands before it. -/
theorem apply_apply_nested {outer inner : Substitution} {contents : Text}
    (houter : '\n' ∉ outer.token) (hinner : '\n' ∉ inner.token)
    (habsent : ¬ inner.token <:+: contents)
    (hclear : ∀ line ∈ contents.lines, StandsClear outer.token inner.token line)
    (hlast : inner.value.lastLine ≠ []) :
    inner.apply (outer.apply contents) =
      ({ outer with value := inner.apply outer.value } : Substitution).apply contents := by
  have hlines : ∀ τ : Substitution, '\n' ∉ τ.token →
      τ.apply contents = unlines (contents.lines.map τ.apply) := by
    intro τ hτ
    conv => lhs; rw [← unlines_lines contents, apply_unlines hτ]
  rw [hlines outer houter, hlines { outer with value := inner.apply outer.value } houter,
    apply_unlines hinner, List.map_map]
  refine congrArg unlines (List.map_congr_left fun l hl => ?_)
  have hsub : l <:+: contents := infix_of_mem_splitOn hl
  exact apply_apply_line hinner (newline_not_mem_of_mem_lines hl) (fun h => habsent (h.trans hsub))
    (hclear l hl) hlast

/-- A block with a token in it, whose value has an empty line and a second token, twice on one line. The
value of that has two lines. -/
theorem apply_apply_nested_block :
    let outer : Substitution := { token := "<a>".toList, value := "if <b>:\n\n  <b>, <b>\nend".toList }
    let inner : Substitution := { token := "<b>".toList, value := "x\ny".toList }
    let contents : Text := "f:\n  - <a>;\nend".toList
    '\n' ∉ outer.token ∧ '\n' ∉ inner.token ∧ ¬ inner.token <:+: contents ∧
      (∀ line ∈ contents.lines, StandsClear outer.token inner.token line) ∧
      inner.value.lastLine ≠ [] ∧
      inner.apply (outer.apply contents) =
        ({ outer with value := inner.apply outer.value } : Substitution).apply contents := by
  intro outer inner contents
  have hclear : ∀ line ∈ contents.lines, StandsClear outer.token inner.token line := by decide
  exact ⟨by decide, by decide, by decide, hclear, by decide,
    apply_apply_nested (by decide) (by decide) (by decide) hclear (by decide)⟩

end Substitution

end Scribe
