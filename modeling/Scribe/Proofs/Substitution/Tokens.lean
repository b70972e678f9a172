import Scribe.Key
import Scribe.Proofs.Substitution.Lines
import Scribe.Proofs.Substitution.Rounds

/-!
# Tokens never overlap

A name may hold single characters of the delimiters that a token puts around it, so that parts of
delimiters stand where the name ends. As long as it holds none of them whole, its token is found again
wherever it stands, and no other token takes a part of it.

- `Text.NoStartIn v u`: in no text does an occurrence of `v` start at a character of `u`. The ends of `u`
  decide it, and it passes on to texts side by side (`NoStartIn.append`).
- `Key.noStartIn_tail_token`: a token of such a name has the opening delimiter nowhere but at its
  start. So no token starts within another, or within itself.
- `Text.SplitAt.append_token`, `Text.exists_splitAt_append_other`: the leftmost search for such a token
  finds all its occurrences, and leaves other tokens whole.
- `tokens_never_overlap`: all of this, for any two names and for the loop that fills a key.
-/

namespace Scribe

namespace Text

variable {token other u v w x x' y y' p q : Text} {ps qs : List Text}

/-! ## Texts that do not start within others -/

/-- In no text does an occurrence of `v` start at a character of `u`: no end of `u` goes on, or breaks
off, as a text that starts with `v`. -/
def NoStartIn (v u : Text) : Prop := ∀ s, s <:+ u → s ≠ [] → ∀ w, s <+: w → ¬ v <+: w

/-- No end of `u` starts `v`, and none starts with it. -/
theorem noStartIn_iff : NoStartIn v u ↔ ∀ s ∈ u.tails, s ≠ [] → ¬ s <+: v ∧ ¬ v <+: s := by
  constructor
  · intro h s hs hne
    have hs' := (List.mem_tails s u).mp hs
    exact ⟨fun hsv => h s hs' hne v hsv List.prefix_rfl, h s hs' hne s List.prefix_rfl⟩
  · intro h s hs hne w hsw hvw
    obtain ⟨hends, hholds⟩ := h s ((List.mem_tails s u).mpr hs) hne
    rcases List.prefix_or_prefix_of_prefix hsw hvw with hsv | hvs
    · exact hends hsv
    · exact hholds hvs

instance (v u : Text) : Decidable (NoStartIn v u) := decidable_of_iff _ noStartIn_iff.symm

/-- Of two occurrences, the one starts before the other, or after its end. -/
theorem NoStartIn.lt_or_le (h : NoStartIn v u) (e : x ++ u ++ y = x' ++ v ++ y') :
    x'.length < x.length ∨ x.length + u.length ≤ x'.length := by
  by_cases hx : x'.length < x.length
  · exact .inl hx
  · refine .inr (Nat.le_of_not_lt fun hlt => ?_)
    rw [List.append_assoc, List.append_assoc] at e
    -- `v` starts after `m`, where `u` goes on with `s`
    obtain ⟨m, rfl⟩ : x <+: x' := List.prefix_of_prefix_length_le (List.prefix_append x (u ++ y))
      (e ▸ List.prefix_append x' (v ++ y')) (Nat.le_of_not_lt hx)
    rw [List.append_assoc, List.append_cancel_left_eq] at e
    rw [List.length_append] at hlt
    obtain ⟨s, rfl⟩ : m <+: u := List.prefix_of_prefix_length_le
      (e ▸ List.prefix_append m (v ++ y')) (List.prefix_append u y) (by omega)
    rw [List.append_assoc, List.append_cancel_left_eq] at e
    have hne : s ≠ [] := by
      rintro rfl
      rw [List.append_nil] at hlt
      omega
    exact h s (List.suffix_append m s) hne (s ++ y) (List.prefix_append s y)
      (e ▸ List.prefix_append v y')

/-- The same behind the first character: where the two do not start at one place. -/
theorem NoStartIn.le_or_le (h : NoStartIn v u.tail) (e : x ++ u ++ y = x' ++ v ++ y') :
    x'.length ≤ x.length ∨ x.length + u.length ≤ x'.length := by
  cases u with
  | nil => exact Nat.le_total _ _
  | cons c u =>
    have e' : (x ++ [c]) ++ u ++ y = x' ++ v ++ y' := by
      rw [← e, List.append_assoc x, List.singleton_append]
    have hcases := NoStartIn.lt_or_le (u := u) h e'
    rw [List.length_append, List.length_singleton] at hcases
    rw [List.length_cons]
    omega

theorem NoStartIn.not_infix_of_ne_nil (h : NoStartIn v u) (hne : v ≠ []) : ¬ v <:+: u := by
  rintro ⟨a, b, rfl⟩
  have hsuffix : v ++ b <:+ a ++ v ++ b := by
    rw [List.append_assoc]
    exact List.suffix_append a (v ++ b)
  exact h (v ++ b) hsuffix (List.append_ne_nil_of_left_ne_nil hne b) _ List.prefix_rfl
    (List.prefix_append v b)

/-- No occurrence of `v` reaches from `u` into what follows it. -/
theorem NoStartIn.apart (h : NoStartIn v u) (y : Text) : Apart v u y := by
  rintro s t hs - hne - rfl
  exact h s hs hne _ (List.prefix_append s t) List.prefix_rfl

/-- No occurrence of `u` reaches into `v` from what stands before it. -/
theorem NoStartIn.apart_append (h : NoStartIn v u) (x y : Text) : Apart u x (v ++ y) := by
  rintro s t - ht - hne rfl
  exact h t (List.suffix_append s t) hne _ ht (List.prefix_append v y)

/-- What does not start behind the first character of a text does not start in it at all, if no text
starts with both. -/
theorem noStartIn_of_tail (h : NoStartIn v u.tail) (hboth : ∀ w, u <+: w → ¬ v <+: w) :
    NoStartIn v u := by
  rintro s ⟨p, rfl⟩ hne
  cases p with
  | nil => exact hboth
  | cons c p => exact h s (List.suffix_append p s) hne

/-- What starts with a text that does not start somewhere does not start there. -/
theorem NoStartIn.lengthen (h : NoStartIn v u) (hw : v <+: w) : NoStartIn w u :=
  fun s hs hne z hz hwz => h s hs hne z hz (hw.trans hwz)

/-- An end of two texts side by side is one of the second, or holds all of it. -/
theorem suffix_append_cases {s : Text} (h : s <:+ u ++ v) :
    s <:+ v ∨ ∃ r, r <:+ u ∧ r ≠ [] ∧ s = r ++ v := by
  obtain ⟨p, hp⟩ := h
  rcases List.append_eq_append_iff.mp hp with ⟨r, rfl, rfl⟩ | ⟨r, -, rfl⟩
  · by_cases hr : r = []
    · left
      rw [hr, List.nil_append]
    · exact .inr ⟨r, List.suffix_append p r, hr, rfl⟩
  · exact .inl (List.suffix_append r s)

/-- What does not start in two texts does not start where they stand side by side. -/
theorem NoStartIn.append (hu : NoStartIn w u) (hv : NoStartIn w v) : NoStartIn w (u ++ v) := by
  intro s hs hne z hz
  rcases suffix_append_cases hs with hs | ⟨r, hr, hrne, rfl⟩
  · exact hv s hs hne z hz
  · exact hu r hr hrne z ((List.prefix_append r v).trans hz)

/-- A text that does not hold `v` may end in a part of it. That part does not go on where a text follows
that has nothing to do with `v`. -/
theorem noStartIn_append_of_absent (hu : ¬ v <:+: u) (hvw : NoStartIn v w) (hwv : NoStartIn w v) :
    NoStartIn v (u ++ w) := by
  rintro s hs hne z hz hvz
  rcases suffix_append_cases hs with hs | ⟨r, hr, -, rfl⟩
  · exact hvw s hs hne z hz hvz
  · rcases List.prefix_or_prefix_of_prefix ((List.prefix_append r w).trans hz) hvz with
      ⟨t, rfl⟩ | hv
    · by_cases ht : t = []
      · exact hu (by rw [ht, List.append_nil]; exact hr.isInfix)
      · -- `t` and `w` both go on behind `r`
        obtain ⟨z, rfl⟩ := (List.prefix_append r w).trans hz
        exact hwv t (List.suffix_append r t) ht z ((List.prefix_append_right_inj r).mp hvz)
          ((List.prefix_append_right_inj r).mp hz)
    · exact hu (hv.isInfix.trans hr.isInfix)

/-! ## The search for a token that does not start within itself -/

/-- What is followed by the token, and does not hold it, has no occurrence that ends earlier. -/
theorem first_of_noStartIn (hne : token ≠ []) (h : NoStartIn token token.tail)
    (none : ¬ token <:+: x) : ¬ token <:+: (x ++ token).dropLast := by
  rintro ⟨a, b, hab⟩
  have hpos := List.length_pos_iff.mpr hne
  obtain ⟨c, hc⟩ := List.dropLast_prefix (x ++ token)
  have hlt : a.length < x.length := by
    have hlength := congrArg List.length hab
    simp only [List.length_append, List.length_dropLast] at hlength
    omega
  have e : a ++ token ++ (b ++ c) = x ++ token ++ [] := by
    rw [List.append_nil, ← hc, ← hab, List.append_assoc (a ++ token)]
  rcases h.le_or_le e with hle | hle
  · omega
  · -- it ends before the token, so it stands in what the token follows
    have hprefix : a ++ token <+: x := by
      rw [List.append_assoc x] at e
      exact List.prefix_of_prefix_length_le ⟨b ++ c, e⟩ (List.prefix_append x _)
        (by rw [List.length_append]; exact hle)
    exact none ((List.suffix_append a token).isInfix.trans hprefix.isInfix)

/-- The pieces of two texts with the token between them are those of the one and of the other. -/
theorem SplitAt.append_token (hne : token ≠ []) (h : NoStartIn token token.tail)
    (hx : SplitAt token x ps) (hy : SplitAt token y qs) :
    SplitAt token (x ++ token ++ y) (ps ++ qs) := by
  induction hx with
  | last none => exact .next (first_of_noStartIn hne h none) hy
  | @next before after ps first _ ih =>
    rw [List.append_assoc (before ++ token), List.append_assoc (before ++ token)]
    exact .next first ih

/-! ## The search for a token beside another -/

theorem meld_concat (ps : List Text) (p q : Text) (qs : List Text) :
    meld (ps ++ [p]) (q :: qs) = ps ++ (p ++ q) :: qs := by
  induction ps with
  | nil => rfl
  | cons r ps ih =>
    rw [List.cons_append, meld_cons (List.append_ne_nil_of_right_ne_nil _ (List.cons_ne_nil p [])), ih]
    rfl

/-- The search for a token leaves another one whole, if neither starts in the other. -/
theorem exists_splitAt_append_other (hne : token ≠ []) (h : NoStartIn other token)
    (h' : NoStartIn token other) (x y : Text) :
    ∃ ps p q qs, SplitAt token x (ps ++ [p]) ∧ SplitAt token y (q :: qs) ∧
      SplitAt token (x ++ other ++ y) (ps ++ (p ++ other ++ q) :: qs) := by
  obtain ⟨ps, p, hps⟩ := (List.eq_nil_or_concat' _).resolve_left (pieces_ne_nil hne x)
  obtain ⟨q, qs, hqs⟩ := List.exists_cons_of_ne_nil (pieces_ne_nil hne y)
  refine ⟨ps, p, q, qs, (splitAt_iff hne).mpr hps.symm, (splitAt_iff hne).mpr hqs.symm,
    (splitAt_iff hne).mpr ?_⟩
  have hother := pieces_of_cut?_eq_none (cut?_eq_none_iff.mpr (h'.not_infix_of_ne_nil hne))
  rw [List.append_assoc x, pieces_append hne (h.apart_append x y), pieces_append hne (h'.apart y),
    hother, hps, hqs]
  show _ = meld (ps ++ [p]) ((other ++ q) :: qs)
  rw [meld_concat, List.append_assoc]

end Text

namespace Substitution

open Text

variable {σ : Substitution}

/-- A token that does not start within itself is filled wherever it stands. -/
theorem fills_iff_of_noStartIn (hne : σ.token ≠ []) (h : NoStartIn σ.token σ.token.tail)
    {contents after : Text} :
    Fills σ contents after ↔ ∃ before, contents = before ++ σ.token ++ after := by
  rw [fills_iff hne]
  constructor
  · rintro ⟨ps, qs, hps, hcontents, hafter⟩
    refine ⟨σ.token.intercalate ps, ?_⟩
    rw [← hcontents.intercalate_eq, intercalate_append _ hps hafter.ne_nil, hafter.intercalate_eq]
  · rintro ⟨before, rfl⟩
    have hbefore := splitAt_pieces hne before
    have hafter := splitAt_pieces hne after
    exact ⟨_, _, hbefore.ne_nil, hbefore.append_token hne h hafter, hafter⟩

end Substitution

namespace Key

open Text

variable {name other : Text}

/-! ## Tokens of names without delimiters -/

/-- A name that neither of the delimiters of a token stands in. -/
def HoldsNoDelimiter (name : Text) : Prop := ¬ opening <:+: name ∧ ¬ closing <:+: name

instance (name : Text) : Decidable (HoldsNoDelimiter name) := inferInstanceAs (Decidable (_ ∧ _))

theorem noStartIn_tail_opening : NoStartIn opening opening.tail := by decide

theorem noStartIn_tail_closing : NoStartIn closing closing.tail := by decide

theorem opening_noStartIn_closing : NoStartIn opening closing := by decide

theorem closing_noStartIn_opening : NoStartIn closing opening := by decide

theorem closing_ne_nil : closing ≠ [] := by decide

/-- The opening delimiter stands in a token at its start only, and starts nowhere else in it. -/
theorem noStartIn_tail_token (h : ¬ opening <:+: name) :
    NoStartIn opening (named name).token.tail := by
  rw [token_named, List.append_assoc, List.tail_append_of_ne_nil opening_ne_nil]
  exact noStartIn_tail_opening.append (noStartIn_append_of_absent h opening_noStartIn_closing
    closing_noStartIn_opening)

theorem token_noStartIn_tail (h : ¬ opening <:+: name) (other : Text) :
    NoStartIn (named other).token (named name).token.tail := by
  refine (noStartIn_tail_token h).lengthen ?_
  rw [token_named, List.append_assoc]
  exact List.prefix_append _ _

/-- Tokens at one place are the same: the name ends where the closing delimiter is first found. -/
theorem eq_of_token_append (h : ¬ closing <:+: name) (h' : ¬ closing <:+: other) {a b : Text}
    (e : (named name).token ++ a = (named other).token ++ b) : name = other ∧ a = b := by
  have hcut : ∀ n c : Text, ¬ closing <:+: n → cut? closing (n ++ closing ++ c) = some (n, c) :=
    fun n c hn => cut?_of_first c closing_ne_nil
      (first_of_noStartIn closing_ne_nil noStartIn_tail_closing hn)
  have e' : name ++ closing ++ a = other ++ closing ++ b := by
    simpa only [token_named, List.append_assoc, List.append_cancel_left_eq] using e
  have hsame := hcut name a h
  rw [e', hcut other b h'] at hsame
  obtain ⟨rfl, rfl⟩ := Prod.mk.inj (Option.some.inj hsame)
  exact ⟨rfl, rfl⟩

theorem token_noStartIn (h : HoldsNoDelimiter name) (h' : HoldsNoDelimiter other)
    (hne : name ≠ other) : NoStartIn (named other).token (named name).token := by
  refine noStartIn_of_tail (token_noStartIn_tail h.1 other) ?_
  rintro w ⟨a, ha⟩ ⟨b, hb⟩
  exact hne (eq_of_token_append h.2 h'.2 (ha.trans hb.symm)).1

/-- Two occurrences of tokens are one and the same, or one ends before the other starts. -/
theorem same_or_apart (hname : HoldsNoDelimiter name) (hother : HoldsNoDelimiter other)
    {before after before' after' : Text}
    (e : before ++ (named name).token ++ after = before' ++ (named other).token ++ after') :
    (name = other ∧ before = before' ∧ after = after') ∨
      before.length + (named name).token.length ≤ before'.length ∨
      before'.length + (named other).token.length ≤ before.length := by
  rcases (token_noStartIn_tail hname.1 other).le_or_le e with hle | hle
  · rcases (token_noStartIn_tail hother.1 name).le_or_le e.symm with hle' | hle'
    · -- they start at one place
      rw [List.append_assoc, List.append_assoc] at e
      obtain ⟨rfl, hrest⟩ := List.append_inj e (Nat.le_antisymm hle' hle)
      obtain ⟨rfl, rfl⟩ := eq_of_token_append hname.2 hother.2 hrest
      exact .inl ⟨rfl, rfl, rfl⟩
    · exact .inr (.inr hle')
  · exact .inr (.inl hle)

/-! ## The result -/

/-- **Tokens never overlap.** Let two names hold no delimiters. In every text, an occurrence of the
token of the one and an occurrence of the token of the other are one and the same, of one name, or the
one ends before the other starts. So tokens of different names are different, neither holds the other,
and no end of the one starts the other. The loop that fills a key fills every occurrence of its token in
the contents and nothing else, and the token of another name stands whole in one of the pieces that the
loop finds. -/
theorem tokens_never_overlap (hname : HoldsNoDelimiter name) (hother : HoldsNoDelimiter other) :
    (∀ before after before' after' : Text,
      before ++ (named name).token ++ after = before' ++ (named other).token ++ after' →
        (name = other ∧ before = before' ∧ after = after') ∨
          before.length + (named name).token.length ≤ before'.length ∨
          before'.length + (named other).token.length ≤ before.length) ∧
      (name ≠ other → (named name).token ≠ (named other).token ∧
        ¬ (named name).token <:+: (named other).token ∧
        ∀ s, s ≠ [] → s <:+ (named name).token → ¬ s <+: (named other).token) ∧
      ∀ value contents : Text,
        (∀ after, Substitution.Fills { token := (named name).token, value } contents after ↔
          ∃ before, contents = before ++ (named name).token ++ after) ∧
        (name ≠ other → ∀ x y, contents = x ++ (named other).token ++ y →
          ∃ ps p q qs, SplitAt (named name).token x (ps ++ [p]) ∧
            SplitAt (named name).token y (q :: qs) ∧
            SplitAt (named name).token contents (ps ++ (p ++ (named other).token ++ q) :: qs)) := by
  have hne := token_named_ne_nil name
  refine ⟨fun _ _ _ _ e => same_or_apart hname hother e, fun hdiff => ?_, fun value contents =>
    ⟨fun after => ?_, ?_⟩⟩
  · have habsent := (token_noStartIn hother hname (Ne.symm hdiff)).not_infix_of_ne_nil hne
    refine ⟨?_, habsent, fun s hs hsuffix hprefix => ?_⟩
    · intro he
      exact habsent (he ▸ List.infix_rfl)
    · exact token_noStartIn hname hother hdiff s hsuffix hs _ hprefix List.prefix_rfl
  · exact Substitution.fills_iff_of_noStartIn (σ := { token := (named name).token, value }) hne
      (token_noStartIn_tail hname.1 name)
  · rintro hdiff x y rfl
    exact exists_splitAt_append_other hne (token_noStartIn hname hother hdiff)
      (token_noStartIn hother hname (Ne.symm hdiff)) x y

/-- Names that end in the start of a delimiter, so that `<#>` and `<##>` stand where the tokens end: the
first token is filled in its one place, and nowhere in the other. -/
theorem tokens_of_cut_delimiters :
    let name : Text := "<".toList
    let other : Text := "x<#".toList
    let contents := (named other).token ++ (named name).token ++ "#>".toList
    HoldsNoDelimiter name ∧ HoldsNoDelimiter other ∧
      ¬ (named name).token <:+: (named other).token ∧
      ∀ value after, Substitution.Fills { token := (named name).token, value } contents after ↔
        ∃ before, contents = before ++ (named name).token ++ after := by
  intro name other contents
  have hname : HoldsNoDelimiter name := by decide
  have hother : HoldsNoDelimiter other := by decide
  obtain ⟨-, hdiff, hloop⟩ := tokens_never_overlap hname hother
  exact ⟨hname, hother, (hdiff (by decide)).2.1, fun value => (hloop value contents).1⟩

end Key

end Scribe
