import Scribe.Fragment
import Scribe.Proofs.Substitution.OnePass

/-!
# Substitution works line by line

A token without a line feed is filled on each line as if there were no others, so filling it in
joined texts is filling it in each of them.

- `Text.Apart token a b`: no occurrence of the token lies across the border between two texts.
  The pieces of the two then are those of each, with one piece across the border (`pieces_append`).
- `apply_append`: the second text is worked through after the first, on what that has become.
- `apply_append_newline`: after a line feed, nothing of what stands before it matters.
- `apply_line_by_line`: both for two texts and for the entries of a builder.
-/

namespace Scribe

namespace Text

variable {token a b : Text}

/-! ## Texts side by side -/

/-- No occurrence of a token lies across the border between two texts. -/
def Apart (token a b : Text) : Prop :=
  ∀ s t, s <:+ a → t <+: b → s ≠ [] → t ≠ [] → token ≠ s ++ t

theorem Apart.of_suffix (h : Apart token a b) {r : Text} (hr : r <:+ a) : Apart token r b :=
  fun s t hs ht => h s t (hs.trans hr) ht

/-- A token without a line feed does not lie across one. -/
theorem apart_newline (h : '\n' ∉ token) (a b : Text) : Apart token a ('\n' :: b) := by
  intro s t _ ht _ htne he
  obtain ⟨c, t, rfl⟩ := List.exists_cons_of_ne_nil htne
  obtain ⟨rfl, -⟩ := List.cons_prefix_cons.mp ht
  exact h (by simp [he])

/-- Pieces of two texts side by side: the last of the one and the first of the other are one. -/
def meld : List Text → List Text → List Text
  | [], qs => qs
  | [p], qs => qs.modifyHead (p ++ ·)
  | p :: r :: ps, qs => p :: meld (r :: ps) qs

theorem meld_cons {ps : List Text} (h : ps ≠ []) (p : Text) (qs : List Text) :
    meld (p :: ps) qs = p :: meld ps qs := by
  obtain ⟨r, ps, rfl⟩ := List.exists_cons_of_ne_nil h
  rfl

theorem meld_ne_nil {ps qs : List Text} (hp : ps ≠ []) (hq : qs ≠ []) : meld ps qs ≠ [] := by
  obtain ⟨p, ps, rfl⟩ := List.exists_cons_of_ne_nil hp
  obtain ⟨q, qs, rfl⟩ := List.exists_cons_of_ne_nil hq
  cases ps <;> simp [meld]

theorem meld_modifyHead {ps qs : List Text} (hp : ps ≠ []) (hq : qs ≠ []) (c : Char) :
    meld (ps.modifyHead (c :: ·)) qs = (meld ps qs).modifyHead (c :: ·) := by
  obtain ⟨p, ps, rfl⟩ := List.exists_cons_of_ne_nil hp
  obtain ⟨q, qs, rfl⟩ := List.exists_cons_of_ne_nil hq
  cases ps <;> rfl

theorem pieces_append (hne : token ≠ []) (h : Apart token a b) :
    pieces token (a ++ b) = meld (pieces token a) (pieces token b) := by
  induction hn : a.length using Nat.strongRecOn generalizing a with
  | _ n ih =>
    subst hn
    cases a with
    | nil =>
      obtain ⟨q, qs, hq⟩ := List.exists_cons_of_ne_nil (pieces_ne_nil hne b)
      simp [meld, hq]
    | cons c a =>
      by_cases hp : token <+: c :: a
      · obtain ⟨r, hr⟩ := hp
        have hlt : r.length < (c :: a).length := by
          have := List.length_pos_iff.mpr hne
          rw [← hr, List.length_append]
          omega
        rw [← hr, List.append_assoc, pieces_token_append hne, pieces_token_append hne,
          ih _ hlt (h.of_suffix ⟨token, hr⟩) rfl, meld_cons (pieces_ne_nil hne r)]
      · -- an occurrence at the start would reach over the border
        have hpb : ¬ token <+: c :: (a ++ b) := by
          rintro ⟨r, hr⟩
          rw [← List.cons_append] at hr
          rcases List.append_eq_append_iff.mp hr with ⟨t, ha, -⟩ | ⟨t, ht, hb⟩
          · exact hp ⟨t, ha.symm⟩
          · by_cases htne : t = []
            · exact hp (by rw [ht, htne, List.append_nil])
            · exact h (c :: a) t (List.suffix_refl _) ⟨r, hb.symm⟩ (List.cons_ne_nil c a) htne ht
        rw [List.cons_append, pieces_cons_of_not_starts hpb, pieces_cons_of_not_starts hp,
          ih _ (Nat.lt_succ_self _) (h.of_suffix (List.suffix_cons c a)) rfl,
          meld_modifyHead (pieces_ne_nil hne a) (pieces_ne_nil hne b)]

end Text

namespace Substitution

variable {σ : Substitution} {a b : Text}

/-! ## Substitution in texts side by side -/

/-- The one pass, after its first step. -/
theorem resume_cons (value done piece : Text) {ps : List Text} (hp : ps ≠ []) :
    resume value done (piece :: ps) = resume value (indented value (done ++ piece)) ps := by
  obtain ⟨r, ps, rfl⟩ := List.exists_cons_of_ne_nil hp
  show ps.foldl (extend value) (extend value (done ++ piece) r) = _
  rw [extend_eq_indented, resume]

/-- One pass over the pieces of two texts is one over those of the first, then one over those of the
second. -/
theorem resume_meld (value done : Text) {ps qs : List Text} (hp : ps ≠ []) (hq : qs ≠ []) :
    resume value done (Text.meld ps qs) = resume value (resume value done ps) qs := by
  induction ps generalizing done with
  | nil => exact absurd rfl hp
  | cons p ps ih =>
    cases ps with
    | nil =>
      obtain ⟨q, qs, rfl⟩ := List.exists_cons_of_ne_nil hq
      simp [Text.meld, resume]
    | cons r ps =>
      have hr := List.cons_ne_nil r ps
      rw [Text.meld_cons hr, resume_cons _ _ _ (Text.meld_ne_nil hr hq), ih _ hr, resume_cons _ _ _ hr]

/-- The second of two texts is worked through after the first, on what that has become. -/
theorem apply_append (hne : σ.token ≠ []) (h : Text.Apart σ.token a b) :
    σ.apply (a ++ b) = resume σ.value (σ.apply a) (Text.pieces σ.token b) := by
  rw [apply_eq_onePass hne, apply_eq_onePass hne, onePass_eq_resume, onePass_eq_resume,
    Text.pieces_append hne h,
    resume_meld _ _ (Text.pieces_ne_nil hne a) (Text.pieces_ne_nil hne b)]

/-- A text in which the token does not occur stays as it is. -/
theorem apply_of_absent (h : ¬ σ.token <:+: a) : σ.apply a = a := by
  have hne : σ.token ≠ [] := fun he => h (he ▸ List.nil_infix)
  rw [apply_eq_onePass hne, onePass, Text.pieces_of_cut?_eq_none (Text.cut?_eq_none_iff.mpr h)]
  rfl

@[simp] theorem apply_nil (σ : Substitution) : σ.apply [] = [] := by
  by_cases hne : σ.token = []
  · exact apply_of_token_eq_nil hne []
  · exact apply_of_absent fun h => hne (List.infix_nil.mp h)

/-! ## Lines -/

/-- What stands before a line feed is not touched by what happens after it. -/
theorem indented_append_newline (value a b : Text) :
    indented value (a ++ '\n' :: b) = a ++ '\n' :: indented value b := by
  rw [indented, indented, Text.lastLine_append_newline, Text.initialLines_append_newline]
  simp

theorem resume_append_newline (value a b : Text) {ps : List Text} (hp : ps ≠ []) :
    resume value (a ++ '\n' :: b) ps = a ++ '\n' :: resume value b ps := by
  induction ps generalizing b with
  | nil => exact absurd rfl hp
  | cons p ps ih =>
    cases ps with
    | nil => simp [resume]
    | cons r ps =>
      have hr := List.cons_ne_nil r ps
      rw [resume_cons _ _ _ hr, resume_cons _ _ _ hr, List.append_assoc, List.cons_append,
        indented_append_newline, ih _ hr]

theorem apply_append_newline (h : '\n' ∉ σ.token) (a b : Text) :
    σ.apply (a ++ '\n' :: b) = σ.apply a ++ '\n' :: σ.apply b := by
  by_cases hne : σ.token = []
  · simp only [apply_of_token_eq_nil hne]
  · have hp := Text.pieces_ne_nil hne b
    -- the line feed belongs to the first piece of what follows it
    have hnewline : Text.pieces σ.token ('\n' :: b) =
        (Text.pieces σ.token b).modifyHead ('\n' :: ·) := by
      refine Text.pieces_cons_of_not_starts fun hstart => ?_
      obtain ⟨c, t, ht⟩ := List.exists_cons_of_ne_nil hne
      rw [ht, List.cons_prefix_cons] at hstart
      exact h (by rw [ht, hstart.1]; exact List.mem_cons_self)
    have hresume : ∀ done, resume σ.value done ((Text.pieces σ.token b).modifyHead ('\n' :: ·)) =
        resume σ.value (done ++ ['\n']) (Text.pieces σ.token b) := by
      intro done
      obtain ⟨p, ps, hps⟩ := List.exists_cons_of_ne_nil hp
      simp [hps, resume]
    rw [apply_append hne (Text.apart_newline h a b), hnewline, hresume,
      resume_append_newline _ _ _ hp, apply_eq_onePass hne b, onePass_eq_resume]

/-- In joined lines, each is filled on its own. -/
theorem apply_unlines (h : '\n' ∉ σ.token) (ls : List Text) :
    σ.apply (Text.unlines ls) = Text.unlines (ls.map σ.apply) := by
  induction ls with
  | nil => exact apply_nil σ
  | cons l ls ih =>
    cases ls with
    | nil => simp only [List.map_cons, List.map_nil, Text.unlines_singleton]
    | cons m ls =>
      rw [Text.unlines_cons_cons, apply_append_newline h, ih]
      simp only [List.map_cons, Text.unlines_cons_cons]

theorem apply_eq_unlines (h : '\n' ∉ σ.token) (contents : Text) :
    σ.apply contents = Text.unlines (contents.lines.map σ.apply) := by
  rw [← apply_unlines h, Text.unlines_lines]

/-- To fill a key in a builder of fragments is to fill it in each of them. -/
theorem contents_filled_builder {k : Key} (h : '\n' ∉ k.token) (entries : List Fragment)
    (value : Fragment) :
    (Fragment.filled (.builder entries) k value).contents =
      (Fragment.builder (entries.map (.filled · k value))).contents := by
  have hfill := apply_unlines (σ := { token := k.token, value := value.contents }) h
    (entries.map Fragment.contents)
  rw [Fragment.contents_filled, Fragment.contents_builder, hfill, Fragment.contents_builder]
  simp only [List.map_map, Function.comp_def, Fragment.contents_filled]

/-- **Substitution works line by line.** A token without a line feed is filled in two texts with a
line feed between them as it is in each of the two. So it is filled in what a builder builds as it is
in each of the entries, however many there are and whatever they hold. -/
theorem apply_line_by_line (σ : Substitution) (h : '\n' ∉ σ.token) :
    (∀ a b : Text, σ.apply (a ++ '\n' :: b) = σ.apply a ++ '\n' :: σ.apply b) ∧
      ∀ b : Builder, σ.apply b.build = (Builder.mk (b.entries.map σ.apply)).build :=
  ⟨apply_append_newline h, fun b => apply_unlines h b.entries⟩

/-- A value of several lines that holds the token itself, in entries of which one has two lines and
one is empty. -/
theorem apply_line_by_line_block :
    let σ : Substitution := { token := "X".toList, value := "X\n\ny".toList }
    let b : Builder := ⟨["- X".toList, [], "z\n  X-X;".toList]⟩
    '\n' ∉ σ.token ∧ σ.apply b.build = (Builder.mk (b.entries.map σ.apply)).build ∧
      σ.apply b.build = "- X\n\n- y\n\nz\n  X\n\n  y-X\n\n  y-y;".toList := by
  intro σ b
  have hne : σ.token ≠ [] := by decide
  refine ⟨by decide, (apply_line_by_line σ (by decide)).2 b, ?_⟩
  rw [apply_eq_onePass hne]
  decide

end Substitution

end Scribe
