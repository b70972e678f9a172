import Scribe.Document
import Scribe.Proofs.Substitution.Lines

/-!
# Tokens that do not occur

Where a token does not occur there is nothing to fill. So it is decided by what occurs in the filled
text whether filling it again changes anything, and whether another key may be filled first.

- `Text.TakesPart token s`: a text can share a character with an occurrence of a token. It can if one of
  the two holds the other, or starts with an end of it (`takesPart_iff`).
- `not_infix_extend`: the step of the one pass brings no occurrence about if no line of the value takes
  part in one. What stands before a line of the value then is kept apart from what follows it.
- `fill_complete`: a key that is filled with such a value is gone.
- `fill_comm`: keys on different lines can be filled in either order.
-/

namespace Scribe

namespace Text

variable {token s x y : Text}

/-! ## Taking part in an occurrence -/

/-- A text can take part in an occurrence of a token: between some other texts, it shares a character
with one. -/
def TakesPart (token s : Text) : Prop :=
  ∃ x y before after i, x ++ s ++ y = before ++ token ++ after ∧
    (x.length ≤ i ∧ i < x.length + s.length) ∧
    before.length ≤ i ∧ i < before.length + token.length

/-- To share a character, one of the two holds the other, or an end of one starts the other. -/
theorem takesPart_iff : TakesPart token s ↔ token ≠ [] ∧ s ≠ [] ∧
    (token <:+: s ∨ s <:+: token ∨ (∃ r ∈ s.tails, r ≠ [] ∧ r <+: token) ∨
      ∃ r ∈ s.inits, r ≠ [] ∧ r <:+ token) := by
  constructor
  · rintro ⟨x, y, before, after, i, h, ⟨hx, hx'⟩, hb, hb'⟩
    refine ⟨by rintro rfl; simp at hb'; omega, by rintro rfl; simp at hx'; omega, ?_⟩
    rw [List.append_assoc, List.append_assoc] at h
    rcases List.append_eq_append_iff.mp h with ⟨m, rfl, hs⟩ | ⟨m, rfl, ht⟩
    · -- the occurrence starts in the text
      rcases List.append_eq_append_iff.mp hs with ⟨k, rfl, -⟩ | ⟨r, rfl, hr⟩
      · simp only [List.length_append] at hb hx'
        omega
      · have hne : r ≠ [] := by
          rintro rfl
          simp only [List.length_append, List.length_nil] at hb hx'
          omega
        rcases List.append_eq_append_iff.mp hr with ⟨k, rfl, -⟩ | ⟨k, rfl, -⟩
        · exact .inl ⟨m, k, by rw [List.append_assoc]⟩
        · exact .inr (.inr (.inl ⟨r, (List.mem_tails r _).mpr ⟨m, rfl⟩, hne, ⟨k, rfl⟩⟩))
    · -- the text starts in the occurrence
      rcases List.append_eq_append_iff.mp ht with ⟨k, rfl, -⟩ | ⟨r, rfl, hr⟩
      · simp only [List.length_append] at hx hb'
        omega
      · have hne : r ≠ [] := by
          rintro rfl
          simp only [List.length_append, List.length_nil] at hx hb'
          omega
        rcases List.append_eq_append_iff.mp hr with ⟨k, rfl, -⟩ | ⟨k, rfl, -⟩
        · exact .inr (.inl ⟨m, k, by rw [List.append_assoc]⟩)
        · exact .inr (.inr (.inr ⟨r, (List.mem_inits r _).mpr ⟨k, rfl⟩, hne, ⟨m, rfl⟩⟩))
  · rintro ⟨htoken, hs, h⟩
    have htoken' := List.length_pos_iff.mpr htoken
    have hs' := List.length_pos_iff.mpr hs
    rcases h with ⟨m, k, rfl⟩ | ⟨m, k, rfl⟩ | ⟨r, hr, hne, k, rfl⟩ | ⟨r, hr, hne, m, rfl⟩
    · exact ⟨[], [], m, k, m.length, by simp, by simp; omega, by simp; omega⟩
    · exact ⟨m, k, [], [], m.length, by simp, by simp; omega, by simp; omega⟩
    · obtain ⟨m, rfl⟩ := (List.mem_tails r _).mp hr
      have hne' := List.length_pos_iff.mpr hne
      exact ⟨[], k, m, [], m.length, by simp, by simp; omega, by simp; omega⟩
    · obtain ⟨k, rfl⟩ := (List.mem_inits r _).mp hr
      have hne' := List.length_pos_iff.mpr hne
      exact ⟨m, [], [], k, m.length, by simp, by simp; omega, by simp; omega⟩

instance (token s : Text) : Decidable (TakesPart token s) := decidable_of_iff _ takesPart_iff.symm

/-- A text that shares no character with a token at all takes no part in it. -/
theorem not_takesPart_of_not_mem (h : ∀ c ∈ s, c ∉ token) : ¬ TakesPart token s := by
  -- two texts of which one is not empty have a character in common if that one stands in both
  have common : ∀ r : Text, r ≠ [] → r ⊆ s → ¬ r ⊆ token := fun r hr hs ht => by
    obtain ⟨c, r, rfl⟩ := List.exists_cons_of_ne_nil hr
    exact h c (hs List.mem_cons_self) (ht List.mem_cons_self)
  rintro hpart
  obtain ⟨htoken, hs, hi | hi | ⟨r, hr, hne, hp⟩ | ⟨r, hr, hne, hp⟩⟩ := takesPart_iff.mp hpart
  · exact common token htoken hi.subset (List.Subset.refl _)
  · exact common s hs (List.Subset.refl _) hi.subset
  · exact common r hne ((List.mem_tails r _).mp hr).subset hp.subset
  · exact common r hne ((List.mem_inits r _).mp hr).subset hp.subset

/-- What takes no part in a token keeps apart what stands on either side. -/
theorem infix_or_of_not_takesPart (h : ¬ TakesPart token s) (hs : s ≠ [])
    (hi : token <:+: x ++ s ++ y) : token <:+: x ∨ token <:+: y := by
  by_cases hne : token = []
  · exact .inl (hne ▸ List.nil_infix)
  obtain ⟨before, after, e⟩ := hi
  have hs' := List.length_pos_iff.mpr hs
  have htoken := List.length_pos_iff.mpr hne
  by_cases hleft : before.length + token.length ≤ x.length
  · left
    have hprefix : before ++ token <+: x := by
      refine List.prefix_of_prefix_length_le ⟨after, e⟩ ?_ (by simpa using hleft)
      rw [List.append_assoc]
      exact List.prefix_append _ _
    exact (List.suffix_append before token).isInfix.trans hprefix.isInfix
  · by_cases hright : x.length + s.length ≤ before.length
    · right
      have hsuffix : token ++ after <:+ y := by
        refine List.suffix_of_suffix_length_le ⟨before, ?_⟩ (List.suffix_append (x ++ s) y) ?_
        · rw [← e, List.append_assoc]
        · have hlength := congrArg List.length e
          simp only [List.length_append] at hlength ⊢
          omega
      exact (List.prefix_append token after).isInfix.trans hsuffix.isInfix
    · refine absurd ⟨x, y, before, after, max before.length x.length, e.symm, ?_, ?_⟩ h <;> omega

theorem infix_or_of_newline (h : '\n' ∉ token) (hi : token <:+: x ++ '\n' :: y) :
    token <:+: x ∨ token <:+: y := by
  have hnewline : ¬ TakesPart token ['\n'] := not_takesPart_of_not_mem (by simpa using h)
  exact infix_or_of_not_takesPart hnewline (List.cons_ne_nil _ _) (by simpa using hi)

/-- No piece between the occurrences holds another. -/
theorem not_infix_of_mem_pieces (hne : token ≠ []) {p : Text} (hp : p ∈ pieces token s) :
    ¬ token <:+: p := by
  have hsplit := splitAt_pieces hne s
  generalize pieces token s = ps at hp hsplit
  induction hsplit with
  | last none =>
    rw [List.mem_singleton.mp hp]
    exact none
  | @next before after ps first rest ih =>
    rcases List.mem_cons.mp hp with rfl | hp
    · intro hi
      refine first (hi.trans (List.IsPrefix.isInfix ?_))
      rw [List.dropLast_append_of_ne_nil hne]
      exact List.prefix_append _ _
    · exact ih hp

end Text

namespace Substitution

open Text

variable {σ : Substitution} {token value indentation acc piece : Text}

/-! ## Keys that are gone -/

/-- Lines that take no part in a token, behind an indentation and before a piece without it. -/
theorem not_infix_lines_append (ht : '\n' ∉ token) (hi : ¬ token <:+: indentation)
    (hp : ¬ token <:+: piece) {ls : List Text} (hne : ls ≠ [])
    (hls : ∀ l ∈ ls, l ≠ [] → ¬ TakesPart token l) :
    ¬ token <:+: unlines (ls.map (indentLine indentation)) ++ piece := by
  -- one line, and what follows it
  have hline : ∀ l y : Text, (l ≠ [] → ¬ TakesPart token l) → ¬ token <:+: y →
      ¬ token <:+: indentLine indentation l ++ y := by
    intro l y hl hy h
    by_cases hnil : l = []
    · rw [hnil, indentLine_nil] at h
      exact hy h
    · rw [indentLine_of_ne_nil _ hnil] at h
      rcases infix_or_of_not_takesPart (hl hnil) hnil h with h | h
      · exact hi h
      · exact hy h
  induction ls with
  | nil => exact absurd rfl hne
  | cons l ls ih =>
    have hl := hls l List.mem_cons_self
    cases ls with
    | nil => simpa using hline l piece hl hp
    | cons m ls =>
      intro h
      rw [List.map_cons, List.map_cons, unlines_cons_cons, List.append_assoc, List.cons_append,
        ← List.map_cons] at h
      rcases infix_or_of_newline ht h with h | h
      · refine hline l [] hl (fun hnil => hp ?_) (by simpa using h)
        rw [List.infix_nil.mp hnil]
        exact List.nil_infix
      · exact ih (List.cons_ne_nil m ls) (fun k hk => hls k (List.mem_cons_of_mem l hk)) h

/-- One step of the one pass makes no occurrence. -/
theorem not_infix_extend (ht : '\n' ∉ token)
    (hvalue : ∀ l ∈ value.lines, l ≠ [] → ¬ TakesPart token l) (hacc : ¬ token <:+: acc)
    (hp : ¬ token <:+: piece) : ¬ token <:+: extend value acc piece := by
  have hline : ∀ line : Text, '\n' ∉ line → ¬ token <:+: line →
      ¬ token <:+: indented value line ++ piece := by
    intro line hl habsent
    rw [indented, initialLines_of_not_mem hl, lastLine_of_not_mem hl, List.nil_append]
    exact not_infix_lines_append ht habsent hp (lines_ne_nil value) hvalue
  rw [extend_eq_indented]
  rcases eq_line_or_append acc with hl | ⟨before, line, hl, rfl⟩
  · exact hline acc hl hacc
  · intro h
    rw [indented_append_newline, List.append_assoc, List.cons_append] at h
    rcases infix_or_of_newline ht h with h | h
    · exact hacc (h.trans (List.prefix_append _ _).isInfix)
    · refine hline line hl (fun hi => hacc (hi.trans ?_)) h
      exact (List.suffix_cons _ _).isInfix.trans (List.suffix_append _ _).isInfix

/-- Where no line of the value takes part in the token, it does not occur in the result. -/
theorem not_infix_apply (hne : σ.token ≠ []) (ht : '\n' ∉ σ.token)
    (hvalue : ∀ l ∈ σ.value.lines, l ≠ [] → ¬ TakesPart σ.token l) (contents : Text) :
    ¬ σ.token <:+: σ.apply contents := by
  obtain ⟨piece, rest, hps⟩ := List.exists_cons_of_ne_nil (pieces_ne_nil hne contents)
  have habsent : ∀ p ∈ piece :: rest, ¬ σ.token <:+: p := fun p hp =>
    not_infix_of_mem_pieces hne (hps ▸ hp)
  rw [apply_eq_onePass hne, onePass, hps]
  -- what is done never holds the token
  have hfold : ∀ (rest : List Text) (acc : Text), ¬ σ.token <:+: acc →
      (∀ p ∈ rest, ¬ σ.token <:+: p) → ¬ σ.token <:+: rest.foldl (extend σ.value) acc := by
    intro rest
    induction rest with
    | nil => exact fun acc hacc _ => hacc
    | cons p rest ih =>
      intro acc hacc hrest
      exact ih _ (not_infix_extend ht hvalue hacc (hrest p List.mem_cons_self))
        fun q hq => hrest q (List.mem_cons_of_mem p hq)
  exact hfold rest piece (habsent piece List.mem_cons_self)
    fun p hp => habsent p (List.mem_cons_of_mem piece hp)

/-- Where the token does not occur nothing is done, and nothing is reported. -/
theorem run_of_absent {contents : Text} (h : ¬ σ.token <:+: contents) :
    σ.run contents = pure contents := by
  have hne : σ.token ≠ [] := fun he => h (he ▸ List.nil_infix)
  have hnone : σ.nextEdit? contents 0 = none := by
    rw [nextEdit?, List.drop_zero, cut?_eq_none_iff.mpr h, Option.map_none]
  rw [run, rewrite, dif_neg hne, rewriteFrom_of_nextEdit?_eq_none hne hnone]
  rfl

/-! ## Two tokens -/

variable {τ : Substitution} {line : Text}

/-- On a line with one of two tokens at most, neither of which comes about where the other is filled. -/
theorem apply_comm_of_absent (hapart : ¬ (σ.token <:+: line ∧ τ.token <:+: line))
    (hσ : σ.token <:+: line → ¬ τ.token <:+: σ.apply line)
    (hτ : τ.token <:+: line → ¬ σ.token <:+: τ.apply line) :
    τ.apply (σ.apply line) = σ.apply (τ.apply line) := by
  by_cases h : σ.token <:+: line
  · rw [apply_of_absent (hσ h), apply_of_absent fun h' => hapart ⟨h, h'⟩]
  · rw [apply_of_absent h]
    by_cases h' : τ.token <:+: line
    · exact (apply_of_absent (hτ h')).symm
    · rw [apply_of_absent h', apply_of_absent h]

end Substitution

namespace Document

open Text Substitution

variable {k k' : Key} {value value' : Text} {d : Document}

/-- **A key is filled in one go.** Let no line of a value take part in an occurrence of a key's token,
empty lines apart. Then the token does not occur in what is filled with the value, whatever stands
beside its occurrences and however many there are; to fill the key once more, with any value, gives
the same document and reports nothing. -/
theorem fill_complete (hne : k.token ≠ []) (ht : '\n' ∉ k.token)
    (hvalue : ∀ l ∈ value.lines, l ≠ [] → ¬ TakesPart k.token l) :
    (∀ contents, ¬ k.token <:+: ({ token := k.token, value } : Substitution).apply contents) ∧
      ∀ (d : Document) (other : Text),
        (d.fill k value).value.fill k other = pure (d.fill k value).value := by
  have habsent : ∀ contents,
      ¬ k.token <:+: ({ token := k.token, value } : Substitution).apply contents :=
    not_infix_apply (σ := { token := k.token, value }) hne ht hvalue
  refine ⟨habsent, fun d other => ?_⟩
  have hrun := run_of_absent (σ := { token := k.token, value := other }) (habsent d.contents)
  rw [fill, contents_fill, hrun]
  rfl

/-- A value with an empty line in it and one at its end, of which the other lines have the characters of
the token, but not in an order in which they could be part of it. -/
theorem fill_complete_delimiters :
    let k : Key := ⟨"<a>".toList⟩
    let value : Text := "a<>b\n\n a<b\n".toList
    let d : Document := { name := "d".toList, contents := "<<a>a><a>\n  <a>a>".toList }
    k.token ≠ [] ∧ '\n' ∉ k.token ∧ (∀ l ∈ value.lines, l ≠ [] → ¬ TakesPart k.token l) ∧
      ¬ k.token <:+: (d.fill k value).value.contents ∧
      ∀ other, (d.fill k value).value.fill k other = pure (d.fill k value).value := by
  intro k value d
  have hvalue : ∀ l ∈ value.lines, l ≠ [] → ¬ TakesPart k.token l := by decide
  obtain ⟨habsent, hagain⟩ := fill_complete (k := k) (by decide) (by decide) hvalue
  exact ⟨by decide, by decide, hvalue, habsent d.contents, hagain d⟩

/-- **Keys on different lines can be filled in either order**, if no line has both and neither comes
about where the other is filled. -/
theorem fill_comm (ht : '\n' ∉ k.token) (ht' : '\n' ∉ k'.token)
    (hapart : ∀ l ∈ d.contents.lines, ¬ (k.token <:+: l ∧ k'.token <:+: l))
    (h : ∀ l ∈ d.contents.lines, k.token <:+: l →
      ¬ k'.token <:+: ({ token := k.token, value } : Substitution).apply l)
    (h' : ∀ l ∈ d.contents.lines, k'.token <:+: l →
      ¬ k.token <:+: ({ token := k'.token, value := value' } : Substitution).apply l) :
    ((d.fill k value).value.fill k' value').value =
      ((d.fill k' value').value.fill k value).value := by
  have hcomm : ∀ l ∈ d.contents.lines,
      ({ token := k'.token, value := value' } : Substitution).apply
          (({ token := k.token, value } : Substitution).apply l) =
        ({ token := k.token, value } : Substitution).apply
          (({ token := k'.token, value := value' } : Substitution).apply l) :=
    fun l hl => apply_comm_of_absent (hapart l hl) (h l hl) (h' l hl)
  simp only [fill, Traced.value_map, value_run, setContents]
  congr 1
  simp only [apply_eq_unlines (σ := { token := k.token, value }) ht d.contents,
    apply_eq_unlines (σ := { token := k'.token, value := value' }) ht' d.contents]
  rw [apply_unlines ht', apply_unlines ht, List.map_map, List.map_map]
  exact congrArg unlines (List.map_congr_left hcomm)

/-- Values of several lines, one of them empty and one with the token itself, and lines with a token
twice: the lines of one key are multiplied and shifted by the other in either order. -/
theorem fill_comm_blocks :
    let k : Key := ⟨"<a>".toList⟩
    let k' : Key := ⟨"<b>".toList⟩
    let value : Text := "one\n\n<a>".toList
    let value' : Text := "\nx\n".toList
    let d : Document := { name := "d".toList, contents := "- <a>, <a>\n  <b>;\n<a>\n\n<b><b>".toList }
    '\n' ∉ k.token ∧ '\n' ∉ k'.token ∧
      (∀ l ∈ d.contents.lines, ¬ (k.token <:+: l ∧ k'.token <:+: l)) ∧
      (∀ l ∈ d.contents.lines, k.token <:+: l →
        ¬ k'.token <:+: ({ token := k.token, value } : Substitution).apply l) ∧
      (∀ l ∈ d.contents.lines, k'.token <:+: l →
        ¬ k.token <:+: ({ token := k'.token, value := value' } : Substitution).apply l) ∧
      ((d.fill k value).value.fill k' value').value =
        ((d.fill k' value').value.fill k value).value := by
  intro k k' value value' d
  have hne : k.token ≠ [] := by decide
  have hne' : k'.token ≠ [] := by decide
  have h : ∀ l ∈ d.contents.lines, k.token <:+: l →
      ¬ k'.token <:+: ({ token := k.token, value } : Substitution).apply l := by
    simp only [apply_eq_onePass (σ := { token := k.token, value }) hne]
    decide
  have h' : ∀ l ∈ d.contents.lines, k'.token <:+: l →
      ¬ k.token <:+: ({ token := k'.token, value := value' } : Substitution).apply l := by
    simp only [apply_eq_onePass (σ := { token := k'.token, value := value' }) hne']
    decide
  have hapart : ∀ l ∈ d.contents.lines, ¬ (k.token <:+: l ∧ k'.token <:+: l) := by decide
  exact ⟨by decide, by decide, hapart, h, h', fill_comm (by decide) (by decide) hapart h h'⟩

end Document

end Scribe
