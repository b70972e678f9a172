import Scribe.Proofs.Substitution.OnePass

/-!
# The rounds of the loop

The loop that fills a token goes round once for each occurrence of the token in the contents that it
is started on. The value does not matter: it may hold the token, or bring one about beside the text
that it is put into, and the buffer may grow in every round.

- `round? σ contents n`: the buffer and the position after `n` rounds, if the loop gets that far.
- `round?_of_splitAt`: **the state after each round**. The first pieces are finished, and what is left
  to search is the contents behind as many occurrences.
- `rewriteFrom_of_round?`: the whole loop does what it has done in its first rounds, and what it does
  from there on.
- `Fills σ contents after`: the loop fills the occurrence that `after` follows in the contents. It is
  one of those that the pieces lie between (`fills_iff`).
- `rounds_eq_occurrences`: the number of rounds, and of the occurrences that are reported.
-/

namespace Scribe

namespace Text

variable {token s p : Text} {ps qs : List Text}

/-! ## Pieces of a rest -/

theorem SplitAt.ne_nil (h : SplitAt token s ps) : ps ≠ [] := by
  cases h <;> exact List.cons_ne_nil _ _

theorem SplitAt.intercalate_eq (h : SplitAt token s ps) : token.intercalate ps = s := by
  induction h with
  | last none => exact List.intercalate_singleton
  | next _ rest ih => rw [List.intercalate_cons_of_ne_nil rest.ne_nil, ih]

/-- The last pieces of a text are the pieces of what they are joined to. -/
theorem SplitAt.of_suffix (h : SplitAt token s ps) (hq : qs <:+ ps) (hne : qs ≠ []) :
    SplitAt token (token.intercalate qs) qs := by
  induction h with
  | @last s none =>
    rcases List.suffix_cons_iff.mp hq with rfl | hq
    · rw [List.intercalate_singleton]
      exact .last none
    · exact absurd (List.suffix_nil.mp hq) hne
  | @next before after ps first rest ih =>
    rcases List.suffix_cons_iff.mp hq with rfl | hq
    · rw [(SplitAt.next first rest).intercalate_eq]
      exact .next first rest
    · exact ih hq

/-- A first piece that is not the last one is cut off. -/
theorem SplitAt.cut?_eq (hne : token ≠ []) (h : SplitAt token s (p :: qs)) (hq : qs ≠ []) :
    cut? token s = some (p, token.intercalate qs) := by
  cases h with
  | last none => exact absurd rfl hq
  | next first rest => rw [cut?_of_first _ hne first, rest.intercalate_eq]

theorem SplitAt.cut?_eq_none (h : SplitAt token s [p]) : cut? token s = none := by
  cases h with
  | last none => exact cut?_eq_none_iff.mpr none
  | next _ rest => exact absurd rfl rest.ne_nil

end Text

namespace Substitution

variable {σ : Substitution} {contents after : Text} {ps qs : List Text}

/-! ## Rounds -/

/-- The buffer and the position after `n` rounds of the loop, if it goes round so often. -/
def round? (σ : Substitution) (contents : Text) : (n : Nat) → Option (Text × Nat)
  | 0 => some (contents, 0)
  | n + 1 =>
    (σ.round? contents n).bind fun (buffer, position) =>
      (σ.nextEdit? buffer position).map fun e => (e.apply buffer, e.stop)

theorem round?_succ_of_some {n position : Nat} {buffer : Text}
    (h : σ.round? contents n = some (buffer, position)) :
    σ.round? contents (n + 1) =
      (σ.nextEdit? buffer position).map fun e => (e.apply buffer, e.stop) := by
  rw [round?, h, Option.bind_some]

/-- A loop that has stopped does not go on. -/
theorem round?_eq_none_of_le {n m : Nat} (h : σ.round? contents n = none) (hle : n ≤ m) :
    σ.round? contents m = none := by
  induction hle with
  | refl => exact h
  | step _ ih => rw [round?, ih, Option.bind_none]

/-- What the loop comes to is what it has after one of its rounds. -/
theorem reaches_iff {buffer : Text} {position : Nat} :
    Reaches σ contents buffer position ↔ ∃ n, σ.round? contents n = some (buffer, position) := by
  constructor
  · intro h
    induction h with
    | start => exact ⟨0, rfl⟩
    | next _ found ih =>
      obtain ⟨n, hn⟩ := ih
      exact ⟨n + 1, by rw [round?_succ_of_some hn, found, Option.map_some]⟩
  · rintro ⟨n, hn⟩
    induction n generalizing buffer position with
    | zero =>
      obtain ⟨rfl, rfl⟩ := Prod.mk.inj (Option.some.inj hn)
      exact .start
    | succ n ih =>
      obtain ⟨⟨b, i⟩, hb, hmap⟩ := Option.bind_eq_some_iff.mp hn
      obtain ⟨e, found, he⟩ := Option.map_eq_some_iff.mp hmap
      obtain ⟨rfl, rfl⟩ := Prod.mk.inj he
      exact .next (ih hb) found

/-- The whole loop, taken up after some of its rounds. -/
theorem rewriteFrom_of_round? {n position : Nat} {buffer : Text} (hne : σ.token ≠ [])
    (h : σ.round? contents n = some (buffer, position)) :
    σ.rewriteFrom hne contents 0 =
      ((σ.rewriteFrom hne buffer position).1, (σ.rewriteFrom hne buffer position).2 + n) := by
  induction n generalizing buffer position with
  | zero =>
    obtain ⟨rfl, rfl⟩ := Prod.mk.inj (Option.some.inj h)
    rfl
  | succ n ih =>
    obtain ⟨⟨b, i⟩, hb, hmap⟩ := Option.bind_eq_some_iff.mp h
    obtain ⟨e, found, he⟩ := Option.map_eq_some_iff.mp hmap
    obtain ⟨rfl, rfl⟩ := Prod.mk.inj he
    rw [ih hb, rewriteFrom_of_nextEdit?_eq_some hne found]
    simp only [Nat.add_assoc, Nat.add_comm 1 n]

/-! ## The state after a round -/

/-- What is finished once the occurrences behind these pieces are filled. -/
def finished (value : Text) (ps : List Text) : Text :=
  ps.foldl (fun done piece => indented value (done ++ piece)) []

@[simp] theorem finished_nil (value : Text) : finished value [] = [] := rfl

@[simp] theorem finished_concat (value : Text) (ps : List Text) (p : Text) :
    finished value (ps ++ [p]) = indented value (finished value ps ++ p) := by
  rw [finished, List.foldl_append]
  rfl

/-- As many rounds as there are first pieces have finished these, and left the others. -/
theorem round?_of_splitAt (hne : σ.token ≠ []) (h : Text.SplitAt σ.token contents (ps ++ qs))
    (hq : qs ≠ []) :
    σ.round? contents ps.length =
      some (finished σ.value ps ++ σ.token.intercalate qs, (finished σ.value ps).length) := by
  -- on the pieces that are finished, the last of them first
  induction ps using List.reverseRecOn generalizing qs with
  | nil =>
    rw [List.nil_append] at h
    rw [h.intercalate_eq, finished_nil]
    rfl
  | append_singleton ps p ih =>
    rw [List.append_assoc, List.singleton_append] at h
    have hrest := h.of_suffix (List.suffix_append ps (p :: qs)) (List.cons_ne_nil p qs)
    have hcut := hrest.cut?_eq hne hq
    obtain ⟨e, found⟩ : ∃ e, σ.nextEdit? (finished σ.value ps ++ σ.token.intercalate (p :: qs))
        (finished σ.value ps).length = some e := by
      rw [nextEdit?_append, hcut]
      exact ⟨_, rfl⟩
    obtain ⟨happly, hstop⟩ := apply_nextEdit hcut found
    rw [List.length_append, List.length_singleton,
      round?_succ_of_some (ih h (List.cons_ne_nil p qs)), found, Option.map_some, happly, hstop,
      finished_concat]

/-- With one piece left the loop stops. -/
theorem nextEdit?_of_splitAt {p : Text} (h : Text.SplitAt σ.token contents (ps ++ [p])) :
    σ.nextEdit? (finished σ.value ps ++ p) (finished σ.value ps).length = none := by
  have hlast := h.of_suffix (List.suffix_append ps [p]) (List.cons_ne_nil p [])
  rw [List.intercalate_singleton] at hlast
  rw [nextEdit?_append, hlast.cut?_eq_none, Option.map_none]

/-- The loop goes round once for each piece but the last. -/
theorem isSome_round?_iff (hne : σ.token ≠ []) {p : Text}
    (h : Text.SplitAt σ.token contents (ps ++ [p])) (n : Nat) :
    (σ.round? contents n).isSome ↔ n ≤ ps.length := by
  constructor
  · intro hsome
    refine Nat.le_of_not_lt fun hlt => ?_
    have hlast := round?_of_splitAt hne h (List.cons_ne_nil p [])
    rw [List.intercalate_singleton] at hlast
    have hstop : σ.round? contents (ps.length + 1) = none := by
      rw [round?_succ_of_some hlast, nextEdit?_of_splitAt h, Option.map_none]
    rw [round?_eq_none_of_le hstop hlt] at hsome
    cases hsome
  · intro hle
    have hsplit : ps ++ [p] = ps.take n ++ (ps.drop n ++ [p]) := by
      rw [← List.append_assoc, List.take_append_drop]
    rw [hsplit] at h
    have hround := round?_of_splitAt hne h (by simp)
    rw [List.length_take, Nat.min_eq_left hle] at hround
    rw [hround]
    rfl

/-- Every state of the loop is one between two pieces. -/
theorem exists_splitAt_of_round? {n position : Nat} {buffer : Text} (hne : σ.token ≠ [])
    (h : σ.round? contents n = some (buffer, position)) :
    ∃ ps qs, ps.length = n ∧ qs ≠ [] ∧ Text.SplitAt σ.token contents (ps ++ qs) ∧
      buffer = finished σ.value ps ++ σ.token.intercalate qs ∧
      position = (finished σ.value ps).length := by
  have hsplit := Text.splitAt_pieces hne contents
  obtain ⟨ps, p, hps⟩ := (List.eq_nil_or_concat' _).resolve_left hsplit.ne_nil
  rw [hps] at hsplit
  have hle : n ≤ ps.length := (isSome_round?_iff hne hsplit n).mp (by rw [h]; rfl)
  have hcut : ps ++ [p] = ps.take n ++ (ps.drop n ++ [p]) := by
    rw [← List.append_assoc, List.take_append_drop]
  have hrest : ps.drop n ++ [p] ≠ [] := List.append_ne_nil_of_right_ne_nil _ (List.cons_ne_nil p [])
  have hlength : (ps.take n).length = n := by
    rw [List.length_take, Nat.min_eq_left hle]
  rw [hcut] at hsplit
  have hround := round?_of_splitAt hne hsplit hrest
  rw [hlength, h] at hround
  obtain ⟨hbuffer, hposition⟩ := Prod.mk.inj (Option.some.inj hround)
  exact ⟨_, _, hlength, hrest, hsplit, hbuffer, hposition⟩

/-! ## The occurrences that are filled -/

/-- The loop comes to fill the occurrence of the token that `after` follows in the contents. -/
def Fills (σ : Substitution) (contents after : Text) : Prop :=
  ∃ buffer position e, Reaches σ contents buffer position ∧
    σ.nextEdit? buffer position = some e ∧ buffer.drop e.last = after

/-- What stands behind an occurrence is not touched when it is filled. -/
theorem drop_last_of_nextEdit? {done rest before : Text}
    (h : Text.cut? σ.token rest = some (before, after)) {e : Edit}
    (he : σ.nextEdit? (done ++ rest) done.length = some e) : (done ++ rest).drop e.last = after := by
  rw [nextEdit?_append, h, Option.map_some] at he
  obtain rfl := Option.some.inj he
  rw [Text.eq_of_cut? h, ← List.append_assoc, ← List.append_assoc]
  exact List.drop_left

/-- What is filled are the occurrences between the pieces. -/
theorem fills_iff (hne : σ.token ≠ []) : Fills σ contents after ↔
    ∃ ps qs, ps ≠ [] ∧ Text.SplitAt σ.token contents (ps ++ qs) ∧ Text.SplitAt σ.token after qs := by
  constructor
  · rintro ⟨buffer, position, e, hreaches, found, rfl⟩
    obtain ⟨n, hn⟩ := reaches_iff.mp hreaches
    obtain ⟨ps, qs, -, hqs, hsplit, rfl, rfl⟩ := exists_splitAt_of_round? hne hn
    obtain ⟨q, qs, rfl⟩ := List.exists_cons_of_ne_nil hqs
    by_cases hlast : qs = []
    · rw [hlast, List.intercalate_singleton, nextEdit?_of_splitAt (hlast ▸ hsplit)] at found
      cases found
    · have hrest := hsplit.of_suffix (List.suffix_append ps (q :: qs)) hqs
      have hafter := hrest.of_suffix (List.suffix_cons q qs) hlast
      refine ⟨ps ++ [q], qs, by simp, by simpa using hsplit, ?_⟩
      rw [drop_last_of_nextEdit? (hrest.cut?_eq hne hlast) found]
      exact hafter
  · rintro ⟨ps, qs, hps, hsplit, hafter⟩
    obtain ⟨ps, p, rfl⟩ := (List.eq_nil_or_concat' ps).resolve_left hps
    rw [List.append_assoc, List.singleton_append] at hsplit
    have hcons := List.cons_ne_nil p qs
    have hrest := hsplit.of_suffix (List.suffix_append ps (p :: qs)) hcons
    have hcut := hrest.cut?_eq hne hafter.ne_nil
    rw [hafter.intercalate_eq] at hcut
    obtain ⟨e, found⟩ : ∃ e, σ.nextEdit? (finished σ.value ps ++ σ.token.intercalate (p :: qs))
        (finished σ.value ps).length = some e := by
      rw [nextEdit?_append, hcut]
      exact ⟨_, rfl⟩
    exact ⟨_, _, e, reaches_iff.mpr ⟨ps.length, round?_of_splitAt hne hsplit hcons⟩, found,
      drop_last_of_nextEdit? hcut found⟩

/-! ## The number of rounds -/

/-- What comes out, and how many occurrences are counted. -/
theorem rewrite_of_splitAt {p : Text} (hne : σ.token ≠ [])
    (h : Text.SplitAt σ.token contents (ps ++ [p])) :
    σ.rewrite contents = (finished σ.value ps ++ p, ps.length) := by
  have hlast := round?_of_splitAt hne h (List.cons_ne_nil p [])
  rw [List.intercalate_singleton] at hlast
  rw [rewrite, dif_neg hne, rewriteFrom_of_round? hne hlast,
    rewriteFrom_of_nextEdit?_eq_none hne (nextEdit?_of_splitAt h), Nat.zero_add]

/-- What is reported: one event with the count, if there is anything to count. -/
theorem run_of_splitAt {p : Text} (hne : σ.token ≠ [])
    (h : Text.SplitAt σ.token contents (ps ++ [p])) :
    σ.run contents =
      ⟨finished σ.value ps ++ p, if ps = [] then [] else [.substituted σ.token ps.length]⟩ := by
  rw [run, rewrite_of_splitAt hne h]
  simp only [List.length_eq_zero_iff]

/-- Where there is one piece only, nothing is done. -/
theorem run_of_splitAt_singleton {p : Text} (hne : σ.token ≠ [])
    (h : Text.SplitAt σ.token contents [p]) : σ.run contents = pure contents := by
  obtain rfl : p = contents := by
    rw [← h.intercalate_eq, List.intercalate_singleton]
  exact run_of_splitAt hne (show Text.SplitAt σ.token p ([] ++ [p]) from h)

/-- **The loop goes round once for each occurrence.** The contents it is started on settle how often,
by their pieces between the leftmost occurrences of the token; the value, which may hold the token or
parts of it, does not. After `n` rounds it searches what follows the first `n` occurrences in the
contents, and after the last round it has the result. It reports the token and the number of rounds, in
one event, if there are any; otherwise the contents stay as they are and nothing is reported. -/
theorem rounds_eq_occurrences (σ : Substitution) (hne : σ.token ≠ []) (contents : Text) :
    ∃ piece rest, Text.SplitAt σ.token contents (piece :: rest) ∧
      (∀ n, (σ.round? contents n).isSome ↔ n ≤ rest.length) ∧
      (∀ n buffer position, σ.round? contents n = some (buffer, position) →
        buffer.drop position = σ.token.intercalate ((piece :: rest).drop n) ∧
          (n = rest.length → buffer = σ.apply contents)) ∧
      (σ.run contents).events =
        (if rest = [] then [] else [.substituted σ.token rest.length]) ∧
      (∀ e ∈ (σ.run contents).events, e.message = "Substituted interpolation key".toList ∧
        e.fields = [("token".toList, σ.token), ("occurrences".toList, Text.ofNat rest.length)]) ∧
      (rest = [] → σ.run contents = pure contents) := by
  have hsplit := Text.splitAt_pieces hne contents
  obtain ⟨piece, rest, hpieces⟩ := List.exists_cons_of_ne_nil hsplit.ne_nil
  rw [hpieces] at hsplit
  obtain ⟨ps, p, hps⟩ := (List.eq_nil_or_concat' (piece :: rest)).resolve_left hsplit.ne_nil
  have hlength : ps.length = rest.length := by
    simpa using (congrArg List.length hps).symm
  have hnil : ps = [] ↔ rest = [] := by
    rw [← List.length_eq_zero_iff, hlength, List.length_eq_zero_iff]
  have hevents : (σ.run contents).events =
      if rest = [] then [] else [.substituted σ.token rest.length] := by
    simp only [run_of_splitAt hne (hps ▸ hsplit), hnil, hlength]
  refine ⟨piece, rest, hsplit, fun n => ?_, fun n buffer position h => ⟨?_, fun hn => ?_⟩, hevents,
    fun e he => ?_, ?_⟩
  · rw [isSome_round?_iff hne (hps ▸ hsplit), hlength]
  · obtain ⟨first, left, rfl, -, hround, rfl, rfl⟩ := exists_splitAt_of_round? hne h
    have hunique : first ++ left = piece :: rest := by
      rw [(Text.splitAt_iff hne).mp hround, (Text.splitAt_iff hne).mp hsplit]
    rw [← hunique, List.drop_left, List.drop_left]
  · have hlast := round?_of_splitAt hne (hps ▸ hsplit) (List.cons_ne_nil p [])
    rw [hlength, ← hn, h, List.intercalate_singleton] at hlast
    rw [apply, rewrite_of_splitAt hne (hps ▸ hsplit)]
    exact (Prod.mk.inj (Option.some.inj hlast)).1
  · rw [hevents] at he
    split at he
    · cases he
    · obtain rfl := List.mem_singleton.mp he
      exact ⟨rfl, rfl⟩
  · rintro rfl
    exact run_of_splitAt_singleton hne hsplit

/-- A value with the token in it twice, which also ends in it, on a line with two occurrences and one
with a third: the loop goes round three times, and the tokens of the value are left. -/
theorem rounds_token_in_value :
    let σ : Substitution := { token := "aa".toList, value := "baa\naa".toList }
    let contents := "x aaaay\n  aa".toList
    σ.token ≠ [] ∧ (∀ n, (σ.round? contents n).isSome ↔ n ≤ 3) ∧
      (σ.run contents).events = [.substituted σ.token 3] := by
  intro σ contents
  have hne : σ.token ≠ [] := by decide
  obtain ⟨piece, rest, hsplit, hrounds, -, hevents, -⟩ := rounds_eq_occurrences σ hne contents
  have hpieces : piece :: rest = ["x ".toList, [], "y\n  ".toList, []] := by
    rw [(Text.splitAt_iff hne).mp hsplit]
    decide
  obtain ⟨rfl, rfl⟩ := List.cons.inj hpieces
  exact ⟨hne, hrounds, hevents⟩

end Substitution

end Scribe
