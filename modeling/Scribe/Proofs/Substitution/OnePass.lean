import Mathlib.Data.List.Infix
import Scribe.Substitution

/-!
# Editing in place is one pass over the pieces

The loop that fills a token edits the very text that it searches. It is compared here with
`onePass`, which goes over the pieces between the occurrences once and changes nothing that it still
has to read.

- `Text.SplitAt token s ps`: `ps` are the pieces of `s` between the leftmost occurrences of the token
  that do not overlap. Every text has exactly one such list (`splitAt_iff`).
- `Reaches σ contents buffer position`: the loop, started on `contents`, comes to look for an
  occurrence in `buffer` from `position` on.
- `Reaches.invariant`: **the loop invariant**. The buffer is a finished part followed by a suffix of
  the contents that is still untouched, the position stands between the two, and what is left to do
  is one pass over the pieces of that suffix.
- `apply_eq_foldl_extend`: every edit is in range, and the result is that of the one pass.
-/

namespace Scribe

namespace Text

/-! ## The split at the leftmost occurrences -/

/-- The pieces of a text between the occurrences of a token, each occurrence being the leftmost one
after the one before: what ends in an occurrence holds no other one that ends earlier. -/
inductive SplitAt (token : Text) : Text → List Text → Prop
  | last {s : Text} (none : ¬ token <:+: s) : SplitAt token s [s]
  | next {before after : Text} {ps : List Text} (first : ¬ token <:+: (before ++ token).dropLast)
      (rest : SplitAt token after ps) : SplitAt token (before ++ token ++ after) (before :: ps)

theorem dropLast_cons_append {token : Text} (hne : token ≠ []) (c : Char) (before : Text) :
    (c :: before ++ token).dropLast = c :: (before ++ token).dropLast := by
  rw [List.cons_append, List.dropLast_cons_of_ne_nil (by simp [hne])]

/-- No occurrence ends before the one that the cut is made at. -/
theorem first_of_cut? {token s before after : Text} (hne : token ≠ [])
    (h : cut? token s = some (before, after)) : ¬ token <:+: (before ++ token).dropLast := by
  induction s generalizing before with
  | nil => simp [cut?, hne] at h
  | cons c s ih =>
    by_cases hp : token <+: c :: s
    · obtain ⟨t, ht⟩ := hp
      rw [← ht, cut?_of_append] at h
      obtain ⟨rfl, rfl⟩ := Prod.mk.inj (Option.some.inj h)
      intro hi
      have hle := hi.length_le
      have hpos := List.length_pos_iff.mpr hne
      rw [List.nil_append, List.length_dropLast] at hle
      omega
    · rw [cut?_cons_of_not_starts hp] at h
      obtain ⟨⟨b, a⟩, hb, he⟩ := Option.map_eq_some_iff.mp h
      obtain ⟨rfl, rfl⟩ := Prod.mk.inj he
      rw [dropLast_cons_append hne, List.infix_cons_iff]
      rintro (hpre | hi)
      · refine hp (hpre.trans ?_)
        rw [eq_of_cut? hb, List.cons_prefix_cons]
        exact ⟨rfl, (List.dropLast_prefix _).trans (List.prefix_append _ _)⟩
      · exact ih hb hi

/-- The cut is made at an occurrence before whose end no other one ends. -/
theorem cut?_of_first {token before : Text} (after : Text) (hne : token ≠ [])
    (first : ¬ token <:+: (before ++ token).dropLast) :
    cut? token (before ++ token ++ after) = some (before, after) := by
  induction before with
  | nil => exact cut?_of_append token after
  | cons c before ih =>
    rw [dropLast_cons_append hne, List.infix_cons_iff, not_or] at first
    have hp : ¬ token <+: c :: (before ++ token ++ after) := fun hp => by
      refine first.1 (List.prefix_of_prefix_length_le hp ?_ ?_)
      · rw [List.cons_prefix_cons]
        exact ⟨rfl, (List.dropLast_prefix _).trans (List.prefix_append _ _)⟩
      · have hpos := List.length_pos_iff.mpr hne
        rw [List.length_cons, List.length_dropLast, List.length_append]
        omega
    show cut? token (c :: (before ++ token ++ after)) = _
    rw [cut?_cons_of_not_starts hp, ih first.2, Option.map_some]

/-- The pieces are the only split of a text at the leftmost occurrences. -/
theorem splitAt_iff {token s : Text} (hne : token ≠ []) {ps : List Text} :
    SplitAt token s ps ↔ ps = pieces token s := by
  constructor
  · intro h
    induction h with
    | last none => rw [pieces_of_cut?_eq_none (cut?_eq_none_iff.mpr none)]
    | next first _ ih => rw [pieces_of_cut? hne (cut?_of_first _ hne first), ih]
  · rintro rfl
    induction hn : s.length using Nat.strongRecOn generalizing s with
    | _ n ih =>
      subst hn
      cases h : cut? token s with
      | none =>
        rw [pieces_of_cut?_eq_none h]
        exact .last (cut?_eq_none_iff.mp h)
      | some cut =>
        obtain ⟨before, after⟩ := cut
        rw [pieces_of_cut? hne h]
        conv => arg 2; rw [eq_of_cut? h]
        exact .next (first_of_cut? hne h) (ih _ (length_lt_of_cut? hne h) rfl)

theorem splitAt_pieces {token : Text} (hne : token ≠ []) (s : Text) :
    SplitAt token s (pieces token s) :=
  (splitAt_iff hne).mpr rfl

end Text

namespace Substitution

variable {σ : Substitution} {contents : Text}

/-! ## The loop -/

/-- The loop that fills the token in `contents` comes to look for an occurrence in `buffer` from
`position` on. -/
inductive Reaches (σ : Substitution) (contents : Text) : (buffer : Text) → (position : Nat) → Prop
  | start : Reaches σ contents contents 0
  | next {buffer : Text} {position : Nat} {e : Edit} (before : Reaches σ contents buffer position)
      (found : σ.nextEdit? buffer position = some e) :
      Reaches σ contents (e.apply buffer) e.stop

/-- The one pass over pieces, taken up after a finished text. -/
def resume (value done : Text) : List Text → Text
  | [] => done
  | piece :: rest => rest.foldl (extend value) (done ++ piece)

theorem onePass_eq_resume (σ : Substitution) (contents : Text) :
    σ.onePass contents = resume σ.value [] (Text.pieces σ.token contents) := by
  rw [onePass, resume.eq_def]
  cases Text.pieces σ.token contents <;> rfl

/-- A text with the value in the place of its last line, which is its indentation. -/
def indented (value s : Text) : Text := s.initialLines ++ Text.indent s.lastLine value

theorem extend_eq_indented (value acc piece : Text) :
    extend value acc piece = indented value acc ++ piece := rfl

/-- The edit that the loop makes between a finished part and an untouched rest. -/
theorem nextEdit?_append (σ : Substitution) (done rest : Text) :
    σ.nextEdit? (done ++ rest) done.length =
      (Text.cut? σ.token rest).map fun (before, _) =>
        { first := (done ++ before).initialLines.length
          last := (done ++ before ++ σ.token).length
          inserted := Text.indent (done ++ before).lastLine σ.value } := by
  rw [nextEdit?, List.drop_left]
  cases h : Text.cut? σ.token rest with
  | none => rfl
  | some cut =>
    obtain ⟨before, after⟩ := cut
    have htake : (done ++ rest).take (done.length + before.length) = done ++ before := by
      rw [Text.eq_of_cut? h, ← List.length_append, List.append_assoc before,
        ← List.append_assoc done, List.take_left]
    have hlast : (done ++ before).drop (done ++ before).initialLines.length =
        (done ++ before).lastLine := by
      conv => lhs; arg 2; rw [← Text.initialLines_append_lastLine (done ++ before)]
      exact List.drop_left
    simp only [Option.map_some, htake, hlast, List.length_append]

/-- What the edit leaves: a longer finished part, and the rest after the occurrence. -/
theorem apply_nextEdit {done rest before after : Text}
    (h : Text.cut? σ.token rest = some (before, after)) {e : Edit}
    (he : σ.nextEdit? (done ++ rest) done.length = some e) :
    e.apply (done ++ rest) = indented σ.value (done ++ before) ++ after ∧
      e.stop = (indented σ.value (done ++ before)).length := by
  rw [nextEdit?_append, h, Option.map_some] at he
  obtain rfl := Option.some.inj he
  have hrest : done ++ rest = done ++ before ++ σ.token ++ after := by
    rw [Text.eq_of_cut? h]
    simp only [List.append_assoc]
  constructor
  · have htake : (done ++ rest).take (done ++ before).initialLines.length =
        (done ++ before).initialLines := by
      rw [hrest]
      conv => lhs; arg 2; rw [← Text.initialLines_append_lastLine (done ++ before)]
      simp only [List.append_assoc]
      exact List.take_left
    have hdrop : (done ++ rest).drop (done ++ before ++ σ.token).length = after := by
      rw [hrest, List.drop_left]
    rw [Edit.apply, htake, hdrop, indented]
  · rw [Edit.stop, indented, List.length_append]

/-- One step of the one pass, as the loop sees it. -/
theorem resume_of_cut? {done rest before after : Text} (hne : σ.token ≠ [])
    (h : Text.cut? σ.token rest = some (before, after)) :
    resume σ.value done (Text.pieces σ.token rest) =
      resume σ.value (indented σ.value (done ++ before)) (Text.pieces σ.token after) := by
  obtain ⟨piece, ps, hp⟩ := List.exists_cons_of_ne_nil (Text.pieces_ne_nil hne after)
  rw [Text.pieces_of_cut? hne h, hp]
  show (ps.foldl (extend σ.value) (extend σ.value (done ++ before) piece)) = _
  rw [extend_eq_indented, resume]

/-! ## The invariant -/

/-- The buffer is a finished part and an untouched rest of the contents, the search goes on between
them, and one pass over the rest completes the one pass over the contents. -/
def Invariant (σ : Substitution) (contents buffer : Text) (position : Nat) : Prop :=
  ∃ done rest, buffer = done ++ rest ∧ position = done.length ∧ rest <:+ contents ∧
    resume σ.value done (Text.pieces σ.token rest) = σ.onePass contents

theorem invariant_start : Invariant σ contents contents 0 :=
  ⟨[], contents, rfl, rfl, List.suffix_refl _, (onePass_eq_resume σ contents).symm⟩

theorem invariant_next {buffer : Text} {position : Nat} {e : Edit} (hne : σ.token ≠ [])
    (h : Invariant σ contents buffer position) (found : σ.nextEdit? buffer position = some e) :
    Invariant σ contents (e.apply buffer) e.stop := by
  obtain ⟨done, rest, rfl, rfl, hs, hr⟩ := h
  cases hc : Text.cut? σ.token rest with
  | none => simp [nextEdit?_append, hc] at found
  | some cut =>
    obtain ⟨before, after⟩ := cut
    obtain ⟨happly, hstop⟩ := apply_nextEdit hc found
    refine ⟨indented σ.value (done ++ before), after, happly, hstop, ?_, ?_⟩
    · have ha : after <:+ rest := ⟨before ++ σ.token, (Text.eq_of_cut? hc).symm⟩
      exact ha.trans hs
    · rw [← resume_of_cut? hne hc, hr]

/-- The invariant holds whenever the loop looks for an occurrence. -/
theorem Reaches.invariant {buffer : Text} {position : Nat} (hne : σ.token ≠ [])
    (h : Reaches σ contents buffer position) : Invariant σ contents buffer position := by
  induction h with
  | start => exact invariant_start
  | next _ found ih => exact invariant_next hne ih found

theorem rewriteFrom_of_nextEdit?_eq_none {buffer : Text} {position : Nat} (hne : σ.token ≠ [])
    (none : σ.nextEdit? buffer position = none) :
    σ.rewriteFrom hne buffer position = (buffer, 0) := by
  rw [rewriteFrom.eq_def]
  split <;> simp_all

theorem rewriteFrom_of_nextEdit?_eq_some {buffer : Text} {position : Nat} {e : Edit}
    (hne : σ.token ≠ []) (found : σ.nextEdit? buffer position = some e) :
    σ.rewriteFrom hne buffer position =
      ((σ.rewriteFrom hne (e.apply buffer) e.stop).1,
        (σ.rewriteFrom hne (e.apply buffer) e.stop).2 + 1) := by
  rw [rewriteFrom.eq_def]
  split <;> simp_all

/-- When nothing is left to fill, the buffer is the result of the one pass. -/
theorem eq_onePass_of_invariant {buffer : Text} {position : Nat}
    (h : Invariant σ contents buffer position) (none : σ.nextEdit? buffer position = none) :
    buffer = σ.onePass contents := by
  obtain ⟨done, rest, rfl, rfl, -, hr⟩ := h
  rw [nextEdit?_append, Option.map_eq_none_iff] at none
  rw [Text.pieces_of_cut?_eq_none none] at hr
  exact hr

/-- The loop ends with the result of the one pass, from wherever the invariant holds. -/
theorem rewriteFrom_of_invariant {buffer : Text} {position : Nat} (hne : σ.token ≠ [])
    (h : Invariant σ contents buffer position) :
    (σ.rewriteFrom hne buffer position).1 = σ.onePass contents := by
  induction buffer, position using rewriteFrom.induct σ hne with
  | case1 buffer position none =>
    rw [rewriteFrom_of_nextEdit?_eq_none hne none]
    exact eq_onePass_of_invariant h none
  | case2 buffer position e found _ _ _ ih =>
    rw [rewriteFrom_of_nextEdit?_eq_some hne found]
    exact ih (invariant_next hne h found)

theorem apply_eq_onePass (hne : σ.token ≠ []) (contents : Text) :
    σ.apply contents = σ.onePass contents := by
  rw [apply, rewrite, dif_neg hne]
  exact rewriteFrom_of_invariant hne invariant_start

/-- Where the invariant holds, the search starts within the buffer, and the edit replaces a stretch
of the buffer that ends in the token. -/
theorem inRange_of_invariant {buffer : Text} {position : Nat}
    (h : Invariant σ contents buffer position) :
    position ≤ buffer.length ∧
      ∀ e, σ.nextEdit? buffer position = some e →
        e.InRange buffer ∧ e.first + σ.token.length ≤ e.last := by
  obtain ⟨done, rest, rfl, rfl, -, -⟩ := h
  have hle : done.length ≤ (done ++ rest).length := by simp
  refine ⟨hle, fun e he => ⟨inRange_of_nextEdit? hle he, ?_⟩⟩
  rw [nextEdit?_append] at he
  obtain ⟨⟨before, after⟩, -, rfl⟩ := Option.map_eq_some_iff.mp he
  have := congrArg List.length (Text.initialLines_append_lastLine (done ++ before))
  simp only [List.length_append] at this ⊢
  omega

/-! ## The result -/

/-- **Editing in place is one pass over the pieces.** An empty token is filled nowhere. Any other
splits the contents into pieces at its leftmost occurrences, and the result is made of these from
left to right, the value standing between them with the indentation of the last line so far. Each
search starts within the buffer, each edit replaces characters that are there, and the buffer in
which nothing more is found is the result. -/
theorem apply_eq_foldl_extend (σ : Substitution) (contents : Text) :
    (σ.token = [] → σ.apply contents = contents) ∧
      (σ.token ≠ [] →
        (∃ piece rest, Text.SplitAt σ.token contents (piece :: rest) ∧
          σ.apply contents = rest.foldl (extend σ.value) piece) ∧
        ∀ buffer position, Reaches σ contents buffer position →
          position ≤ buffer.length ∧
          (∀ e, σ.nextEdit? buffer position = some e →
            e.InRange buffer ∧ e.first + σ.token.length ≤ e.last) ∧
          (σ.nextEdit? buffer position = none → buffer = σ.apply contents)) := by
  refine ⟨fun h => apply_of_token_eq_nil h contents, fun hne => ⟨?_, ?_⟩⟩
  · obtain ⟨piece, rest, hp⟩ := List.exists_cons_of_ne_nil (Text.pieces_ne_nil hne contents)
    refine ⟨piece, rest, (Text.splitAt_iff hne).mpr hp.symm, ?_⟩
    rw [apply_eq_onePass hne, onePass, hp]
  · intro buffer position h
    have invariant := h.invariant hne
    refine ⟨(inRange_of_invariant invariant).1, (inRange_of_invariant invariant).2, fun none => ?_⟩
    rw [apply_eq_onePass hne]
    exact eq_onePass_of_invariant invariant none

/-- Two occurrences on an indented line, and a value that holds the token: the second occurrence is
indented by what the first one left on its line. -/
theorem apply_token_in_value :
    let σ : Substitution := { token := "X".toList, value := "a\n\nXb".toList }
    let contents := "p\n  X-X!".toList
    σ.token ≠ [] ∧
      (∃ piece rest, Text.SplitAt σ.token contents (piece :: rest) ∧
        σ.apply contents = rest.foldl (extend σ.value) piece) ∧
      σ.apply contents = "p\n  a\n\n  Xb-a\n\n  Xb-Xb!".toList := by
  intro σ contents
  have hne : σ.token ≠ [] := by decide
  refine ⟨hne, ((apply_eq_foldl_extend σ contents).2 hne).1, ?_⟩
  rw [apply_eq_onePass hne]
  decide

end Substitution

end Scribe
