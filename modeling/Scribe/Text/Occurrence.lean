import Scribe.Text.Lines

/-!
# Occurrences of a token

A token is searched from the left, and the search goes on after the end of what it found, so the
occurrences it finds do not overlap. `cut?` finds the first one; `pieces` lists the texts before,
between and after all of them. The main facts:

* `eq_of_cut?`: the cut loses nothing.
* `cut?_eq_none_iff`: there is no cut exactly when the token does not occur.
* `pieces_of_cut?`: the pieces are the text before the first occurrence and the pieces after it.
* `intercalate_pieces`: the pieces, joined with the token, are the text.
-/

namespace Scribe

namespace Text

/-! ## The first occurrence -/

/-- The text before and the text after the leftmost occurrence of `token`. -/
def cut? (token : Text) : Text → Option (Text × Text)
  | [] => if token = [] then some ([], []) else none
  | c :: s =>
    if token.isPrefixOf (c :: s) then some ([], (c :: s).drop token.length)
    else (cut? token s).map fun (before, after) => (c :: before, after)

theorem cut?_of_append (token s : Text) : cut? token (token ++ s) = some ([], s) := by
  cases h : token ++ s with
  | nil => simp_all [cut?]
  | cons c t =>
    have : token.isPrefixOf (c :: t) := List.isPrefixOf_iff_prefix.mpr ⟨s, h⟩
    rw [cut?, if_pos this, ← h, List.drop_left]

theorem cut?_cons_of_not_starts {token : Text} {c : Char} {s : Text} (h : ¬ token <+: c :: s) :
    cut? token (c :: s) = (cut? token s).map fun (before, after) => (c :: before, after) := by
  rw [cut?, if_neg (mt List.isPrefixOf_iff_prefix.mp h)]

/-- A text is what stands before the first occurrence, the token, and what stands after it. -/
theorem eq_of_cut? {token s before after : Text} (h : cut? token s = some (before, after)) :
    s = before ++ token ++ after := by
  induction s generalizing before with
  | nil => simp_all [cut?]
  | cons c s ih =>
    by_cases hp : token <+: c :: s
    · obtain ⟨t, ht⟩ := hp
      rw [← ht, cut?_of_append] at h
      obtain ⟨rfl, rfl⟩ := Prod.mk.inj (Option.some.inj h)
      simp [ht]
    · rw [cut?_cons_of_not_starts hp] at h
      obtain ⟨⟨b, a⟩, hb, he⟩ := Option.map_eq_some_iff.mp h
      obtain ⟨rfl, rfl⟩ := Prod.mk.inj he
      simp [ih hb]

theorem cut?_eq_none_iff {token s : Text} : cut? token s = none ↔ ¬ token <:+: s := by
  induction s with
  | nil => simp [cut?]
  | cons c s ih =>
    by_cases hp : token <+: c :: s
    · obtain ⟨t, ht⟩ := hp
      rw [← ht, cut?_of_append]
      simpa using (List.prefix_append token t).isInfix
    · rw [cut?_cons_of_not_starts hp, Option.map_eq_none_iff, ih, List.infix_cons_iff]
      simp [hp]

/-! ## All occurrences -/

/-- The pieces of a text of which the first `skip` characters belong to an occurrence. -/
def piecesAfter (token : Text) : (skip : Nat) → Text → List Text
  | _, [] => [[]]
  | skip + 1, _ :: s => piecesAfter token skip s
  | 0, c :: s =>
    if token.isPrefixOf (c :: s) then [] :: piecesAfter token (token.length - 1) s
    else (piecesAfter token 0 s).modifyHead (c :: ·)

/-- The texts before, between and after the occurrences of a token that is not empty. -/
def pieces (token s : Text) : List Text := piecesAfter token 0 s

/-- The number of occurrences of a token that is not empty. -/
def occurrences (token s : Text) : Nat := (pieces token s).length - 1

theorem piecesAfter_eq_pieces_drop (token : Text) (skip : Nat) (s : Text) :
    piecesAfter token skip s = pieces token (s.drop skip) := by
  induction skip generalizing s with
  | zero => rfl
  | succ k ih => cases s with
    | nil => rfl
    | cons c s => simpa [piecesAfter] using ih s

@[simp] theorem pieces_nil (token : Text) : pieces token [] = [[]] := rfl

theorem pieces_token_append {token : Text} (h : token ≠ []) (s : Text) :
    pieces token (token ++ s) = [] :: pieces token s := by
  obtain ⟨c, t, rfl⟩ := List.exists_cons_of_ne_nil h
  have : (c :: t).isPrefixOf (c :: (t ++ s)) :=
    List.isPrefixOf_iff_prefix.mpr (List.prefix_append (c :: t) s)
  rw [pieces, List.cons_append, piecesAfter, if_pos this, piecesAfter_eq_pieces_drop]
  simp

theorem pieces_cons_of_not_starts {token : Text} {c : Char} {s : Text} (h : ¬ token <+: c :: s) :
    pieces token (c :: s) = (pieces token s).modifyHead (c :: ·) := by
  rw [pieces, piecesAfter, if_neg (mt List.isPrefixOf_iff_prefix.mp h), ← pieces]

theorem pieces_of_cut?_eq_none {token s : Text} (h : cut? token s = none) :
    pieces token s = [s] := by
  induction s with
  | nil => rfl
  | cons c s ih =>
    have hn := cut?_eq_none_iff.mp h
    have hp : ¬ token <+: c :: s := fun hp => hn hp.isInfix
    have hs : cut? token s = none := cut?_eq_none_iff.mpr fun hi => hn (List.infix_cons hi)
    rw [pieces_cons_of_not_starts hp, ih hs, List.modifyHead_cons]

/-- The pieces are the text before the first occurrence, then the pieces of what follows it. -/
theorem pieces_of_cut? {token s before after : Text} (hne : token ≠ [])
    (h : cut? token s = some (before, after)) :
    pieces token s = before :: pieces token after := by
  induction s generalizing before with
  | nil => simp_all [cut?]
  | cons c s ih =>
    by_cases hp : token <+: c :: s
    · obtain ⟨t, ht⟩ := hp
      rw [← ht, cut?_of_append] at h
      obtain ⟨rfl, rfl⟩ := Prod.mk.inj (Option.some.inj h)
      rw [← ht, pieces_token_append hne]
    · rw [cut?_cons_of_not_starts hp] at h
      obtain ⟨⟨b, a⟩, hb, he⟩ := Option.map_eq_some_iff.mp h
      obtain ⟨rfl, rfl⟩ := Prod.mk.inj he
      rw [pieces_cons_of_not_starts hp, ih hb, List.modifyHead_cons]

theorem length_lt_of_cut? {token s before after : Text} (hne : token ≠ [])
    (h : cut? token s = some (before, after)) : after.length < s.length := by
  have := List.length_pos_iff.mpr hne
  rw [eq_of_cut? h]
  simp only [List.length_append]
  omega

theorem pieces_ne_nil {token : Text} (hne : token ≠ []) (s : Text) : pieces token s ≠ [] := by
  cases h : cut? token s with
  | none => simp [pieces_of_cut?_eq_none h]
  | some cut => simp [pieces_of_cut? hne h]

/-- Nothing but the occurrences of the token is left out of the pieces. -/
theorem intercalate_pieces {token : Text} (hne : token ≠ []) (s : Text) :
    token.intercalate (pieces token s) = s := by
  induction hn : s.length using Nat.strongRecOn generalizing s with
  | _ n ih =>
    subst hn
    cases h : cut? token s with
    | none => rw [pieces_of_cut?_eq_none h, List.intercalate_singleton]
    | some cut =>
      obtain ⟨before, after⟩ := cut
      have rest := ih _ (length_lt_of_cut? hne h) after rfl
      rw [pieces_of_cut? hne h, List.intercalate_cons_of_ne_nil (pieces_ne_nil hne after), rest]
      exact (eq_of_cut? h).symm

end Text

end Scribe
