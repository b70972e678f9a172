import Scribe.Toml.Quotation.Read
import Scribe.Toml.Quotation.Write

/-!
# Quoted strings can be read

Whatever a string holds, it is read as it was written, in each of the four styles in which it may be
quoted. A style without escapes is chosen only for a string that needs none.

- `readUntil_flatMap`: pieces that are read one by one are read up to the end.
- `basic?_escapedLine`, `literal?_plain`: strings on one line.
- `longBasic?_escapedLines`, `longLiteral?_plain`: strings over several lines. Up to two marks before
  the end belong to the string, so the induction keeps count of the marks right before
  (`readUntil_long`).
- `string?_quote`: strings in the style that is chosen for them.
-/

namespace Scribe

namespace Toml

variable {c mark : Char} {s rest tail : Text} {bound : Nat} {stop piece : Reader Text}

/-! ## Repetition -/

theorem readUntil_stop {result : Text × Text} (h : stop s = some result) :
    readUntil stop piece (bound + 1) s = some result := by
  rw [readUntil, h]

theorem readUntil_piece {first others : Text} (hstop : stop s = none)
    (hpiece : piece s = some (first, tail))
    (hrest : readUntil stop piece bound tail = some (others, rest)) :
    readUntil stop piece (bound + 1) s = some (first ++ others, rest) := by
  rw [readUntil, hstop]
  simp only [hpiece, bind, Option.bind, hrest]
  rfl

/-- Characters that are written one by one, and can be read one by one, can be read together. -/
theorem readUntil_flatMap {write : Char → Text}
    (hpiece : ∀ c ∈ s, ∀ more,
      stop (write c ++ more) = none ∧ piece (write c ++ more) = some ([c], more))
    (hend : stop tail = some ([], rest)) (hbound : s.length < bound) :
    readUntil stop piece bound (s.flatMap write ++ tail) = some (s, rest) := by
  induction s generalizing bound with
  | nil =>
    obtain ⟨bound, rfl⟩ := Nat.exists_eq_add_of_lt hbound
    exact readUntil_stop hend
  | cons c s ih =>
    obtain ⟨bound, rfl⟩ : ∃ b, bound = b + 1 := ⟨bound - 1, by omega⟩
    obtain ⟨hstop, hread⟩ := hpiece c List.mem_cons_self (s.flatMap write ++ tail)
    rw [List.flatMap_cons, List.append_assoc]
    have hrest := ih (fun d hd => hpiece d (List.mem_cons_of_mem c hd))
      (Nat.lt_of_succ_lt_succ hbound)
    exact readUntil_piece hstop hread hrest

/-! ## Characters -/

/-- A character that needs no escape stands for itself, unless it ends the line. -/
theorem isPlain_of_needsEscape (h : needsEscape c = false) (hn : c ≠ '\n') : isPlain c = true := by
  simp only [needsEscape, isPlain, ne_eq, decide_not, Bool.or_eq_false_iff, Bool.and_eq_false_iff,
    decide_eq_false_iff_not, Bool.not_eq_false', decide_eq_true_eq, Bool.or_eq_true,
    Bool.and_eq_true, Bool.not_eq_true'] at h ⊢
  obtain ⟨(h | h) | h, hdelete⟩ := h
  · exact .inr ⟨by omega, hdelete⟩
  · exact .inl h
  · exact absurd h hn

theorem ne_return_of_needsEscape (h : needsEscape c = false) : c ≠ '\r' := by
  rintro rfl
  exact absurd h (by decide)

/-- The four hexadecimal digits of a code point. -/
def fourDigits (n : Nat) : Text := ((Nat.toDigits 16 n).map Char.toUpper).leftpad 4 '0'

theorem fourDigits_spec :
    ∀ n < 128, (fourDigits n).length = 4 ∧ hexadecimal? (fourDigits n) = some n := by
  decide

theorem codePoint?_fourDigits {n : Nat} (h : n < 128) (rest : Text) :
    codePoint? 4 (fourDigits n ++ rest) = some ([Char.ofNat n], rest) := by
  obtain ⟨hlength, hvalue⟩ := fourDigits_spec n h
  have htake : (fourDigits n ++ rest).take 4 = fourDigits n := List.take_left' hlength
  have hdrop : (fourDigits n ++ rest).drop 4 = rest := List.drop_left' hlength
  have hvalid : n.isValidChar := .inl (by omega)
  have hguard : (guard ((fourDigits n).length = 4 ∧ n.isValidChar) : Option Unit) = some () :=
    if_pos ⟨hlength, hvalid⟩
  rw [codePoint?, htake, hdrop, hvalue]
  show ((guard ((fourDigits n).length = 4 ∧ n.isValidChar) : Option Unit) >>= _) = _
  rw [hguard]
  rfl

/-- A character is written as it is, or with a backslash and a code from which it can be read. What
follows the backslash is no end of a line. -/
theorem escaped_cases (c : Char) :
    escaped c = [c] ∧ c ≠ '\\' ∧ needsEscape c = false ∨
      ∃ code, escaped c = '\\' :: code ∧ ∀ rest,
        escape? (code ++ rest) = some ([c], rest) ∧ continuation? (code ++ rest) = none := by
  unfold escaped
  split
  next => exact .inr ⟨['b'], rfl, fun _ => ⟨rfl, rfl⟩⟩
  next => exact .inr ⟨['t'], rfl, fun _ => ⟨rfl, rfl⟩⟩
  next => exact .inr ⟨['f'], rfl, fun _ => ⟨rfl, rfl⟩⟩
  next => exact .inr ⟨['r'], rfl, fun _ => ⟨rfl, rfl⟩⟩
  next => exact .inr ⟨['\\'], rfl, fun _ => ⟨rfl, rfl⟩⟩
  next hbackslash =>
  split
  next h =>
    have hsmall : c.toNat < 128 := by
      simp only [needsEscape, Bool.or_eq_true, Bool.and_eq_true, decide_eq_true_eq] at h
      omega
    refine .inr ⟨'u' :: fourDigits c.toNat, rfl, fun rest => ⟨?_, rfl⟩⟩
    have hread := codePoint?_fourDigits hsmall rest
    rw [Char.ofNat_toNat] at hread
    exact hread
  next h => exact .inl ⟨rfl, hbackslash, Bool.eq_false_iff.mpr h⟩

/-- A character between quotation marks on one line. -/
def escapedOnLine (c : Char) : Text :=
  if c = '"' then "\\\"".toList else if c = '\n' then "\\n".toList else escaped c

theorem escapedLine_eq (s : Text) : escapedLine s = s.flatMap escapedOnLine := rfl

/-- A piece of a string on one line does not end it, and is read as the character it stands for. -/
theorem escapedOrPlain?_escapedOnLine (c : Char) (more : Text) :
    closing? '"' (escapedOnLine c ++ more) = none ∧
      escapedOrPlain? (escapedOnLine c ++ more) = some ([c], more) := by
  rw [escapedOnLine]
  split
  next hc => exact ⟨rfl, by rw [hc]; rfl⟩
  next hquote =>
  split
  next hc => exact ⟨rfl, by rw [hc]; rfl⟩
  next hnewline =>
  rcases escaped_cases c with ⟨he, hbackslash, hneeds⟩ | ⟨code, he, hcode⟩
  · have hplain := isPlain_of_needsEscape hneeds hnewline
    rw [he]
    constructor
    · rw [List.singleton_append, closing?, if_neg hquote]
    · rw [List.singleton_append, escapedOrPlain?]
      · rw [plain?, if_pos hplain]
      · intro s hs
        exact hbackslash (List.cons.inj hs).1
  · rw [he]
    exact ⟨rfl, (hcode more).1⟩

/-! ## Strings on one line -/

theorem length_le_length_flatMap {write : Char → Text} (h : ∀ c, write c ≠ []) (s : Text) :
    s.length ≤ (s.flatMap write).length := by
  induction s with
  | nil => exact Nat.le_refl 0
  | cons c s ih =>
    have hpos := List.length_pos_iff.mpr (h c)
    rw [List.flatMap_cons, List.length_append, List.length_cons]
    omega

theorem escapedOnLine_ne_nil (c : Char) : escapedOnLine c ≠ [] := by
  intro h
  have hread := (escapedOrPlain?_escapedOnLine c []).2
  rw [h] at hread
  cases hread

/-- A string on one line between quotation marks is read as it was. -/
theorem basic?_escapedLine (s rest : Text) : basic? (escapedLine s ++ '"' :: rest) = some (s, rest) := by
  rw [basic?, escapedLine_eq]
  refine readUntil_flatMap (fun c _ => escapedOrPlain?_escapedOnLine c) ?_ ?_
  · rw [closing?, if_pos rfl]
  · have hlength := length_le_length_flatMap escapedOnLine_ne_nil s
    rw [List.length_append]
    omega

/-- A plain string on one line between apostrophes is read as it was. -/
theorem literal?_plain (hplain : ∀ c ∈ s, isPlain c = true) (hmark : '\'' ∉ s) (rest : Text) :
    literal? (s ++ '\'' :: rest) = some (s, rest) := by
  have hread : readUntil (closing? '\'') plain? ((s ++ '\'' :: rest).length + 1)
      (s.flatMap (fun c => [c]) ++ '\'' :: rest) = some (s, rest) := ?_
  · rw [List.flatMap_singleton'] at hread
    exact hread
  refine readUntil_flatMap ?_ ?_ ?_
  · intro c hc more
    have hne : c ≠ '\'' := fun h => hmark (h ▸ hc)
    constructor
    · rw [List.singleton_append, closing?, if_neg hne]
    · rw [List.singleton_append, plain?, if_pos (hplain c hc)]
  · rw [closing?, if_pos rfl]
  · rw [List.length_append]
    omega

/-! ## Strings over several lines -/

/-- Up to two marks before the three that end a string belong to it. -/
theorem longClosing?_end {n : Nat} (hn : n ≤ 2) (hrest : rest.head? ≠ some mark) :
    longClosing? mark (List.replicate n mark ++ (List.replicate 3 mark ++ rest)) =
      some (List.replicate n mark, rest) := by
  have hrun : (List.replicate n mark ++ (List.replicate 3 mark ++ rest)).takeWhile (· = mark) =
      List.replicate (n + 3) mark := by
    rw [← List.append_assoc, List.replicate_append_replicate, List.takeWhile_append_of_pos (by simp)]
    cases rest with
    | nil => simp
    | cons d rest =>
      have hd : d ≠ mark := fun h => hrest (by rw [h]; rfl)
      simp [hd]
  have hinside : min (n + 3 - 3) 2 = n := by omega
  have hdrop : (List.replicate n mark ++ (List.replicate 3 mark ++ rest)).drop (n + 3) = rest := by
    rw [← List.append_assoc, List.replicate_append_replicate]
    exact List.drop_left' List.length_replicate
  rw [longClosing?, hrun, List.length_replicate]
  simp only [hinside, hdrop]
  rw [if_neg (by omega)]

/-- Fewer than three marks with something behind them do not end a string. -/
theorem longClosing?_eq_none {n : Nat} (hn : n ≤ 2) (hc : c ≠ mark) (rest : Text) :
    longClosing? mark (List.replicate n mark ++ c :: rest) = none := by
  have hrun : (List.replicate n mark ++ c :: rest).takeWhile (· = mark) =
      List.replicate n mark := by
    rw [List.takeWhile_append_of_pos (by simp)]
    simp [hc]
  rw [longClosing?, hrun, List.length_replicate]
  simp only
  rw [if_pos (by omega)]

/-- Reading a string over several lines to its end. Where so many marks stand right before, what is left
of the string is a few marks more, or its first character is read next. -/
theorem readUntil_long (write : Nat → Text → Text) {Fits : Nat → Text → Prop}
    (hstep : ∀ marks s, Fits marks s →
      (∃ n ≤ 2, s = List.replicate n mark ∧ write marks s = s) ∨
      ∃ c s' marks', s = c :: s' ∧ Fits marks' s' ∧ ∀ tail,
        longClosing? mark (write marks s ++ tail) = none ∧
          piece (write marks s ++ tail) = some ([c], write marks' s' ++ tail))
    (hrest : rest.head? ≠ some mark) {marks : Nat} (h : Fits marks s) (hbound : s.length < bound) :
    readUntil (longClosing? mark) piece bound
      (write marks s ++ (List.replicate 3 mark ++ rest)) = some (s, rest) := by
  induction s generalizing marks bound with
  | nil =>
    obtain ⟨bound, rfl⟩ : ∃ b, bound = b + 1 := ⟨bound - 1, by omega⟩
    rcases hstep marks [] h with ⟨n, hn, hs, hwrite⟩ | ⟨c, s', marks', hs, -⟩
    · rw [hwrite, hs]
      exact readUntil_stop (longClosing?_end hn hrest)
    · cases hs
  | cons d s ih =>
    obtain ⟨bound, rfl⟩ : ∃ b, bound = b + 1 := ⟨bound - 1, by omega⟩
    rcases hstep marks (d :: s) h with ⟨n, hn, hs, hwrite⟩ | ⟨c, s', marks', hs, h', hread⟩
    · rw [hwrite, hs]
      exact readUntil_stop (longClosing?_end hn hrest)
    · obtain ⟨rfl, rfl⟩ := List.cons.inj hs
      obtain ⟨hstop, hpiece⟩ := hread (List.replicate 3 mark ++ rest)
      exact readUntil_piece hstop hpiece (ih h' (Nat.lt_of_succ_lt_succ hbound))

/-! ### Between quotation marks -/

theorem escapedLines_quote {marks : Nat} (h : marks < 2) (s : Text) :
    escapedLines marks ('"' :: s) = '"' :: escapedLines (marks + 1) s := if_pos h

theorem escapedLines_third {marks : Nat} (h : ¬ marks < 2) (s : Text) :
    escapedLines marks ('"' :: s) = '\\' :: '"' :: escapedLines 0 s := if_neg h

theorem escapedLines_cons {marks : Nat} (h : c ≠ '"') (s : Text) :
    escapedLines marks (c :: s) =
      (if c = '\n' then ['\n'] else escaped c) ++ escapedLines 0 s := by
  rw [escapedLines]
  exact h

/-- At most two marks stand side by side, counted with those right before, before something else or the
end comes. -/
theorem escapedLines_run {marks : Nat} (hmarks : marks ≤ 2) (s : Text) :
    (∃ n, n + marks ≤ 2 ∧ s = List.replicate n '"' ∧ escapedLines marks s = s) ∨
      ∃ n d more, n + marks ≤ 2 ∧ d ≠ '"' ∧
        escapedLines marks s = List.replicate n '"' ++ d :: more := by
  induction s generalizing marks with
  | nil => exact .inl ⟨0, by omega, rfl, rfl⟩
  | cons c s ih =>
    by_cases hc : c = '"'
    · subst hc
      by_cases hm : marks < 2
      · rw [escapedLines_quote hm]
        have hmore : marks + 1 ≤ 2 := by omega
        rcases ih hmore with ⟨n, hn, hs, he⟩ | ⟨n, d, more, hn, hd, he⟩
        · exact .inl ⟨n + 1, by omega, by rw [List.replicate_succ, ← hs], by rw [he]⟩
        · exact .inr ⟨n + 1, d, more, by omega, hd, by rw [he, List.replicate_succ]; rfl⟩
      · rw [escapedLines_third hm]
        exact .inr ⟨0, '\\', '"' :: escapedLines 0 s, by omega, by decide, rfl⟩
    · rw [escapedLines_cons hc]
      right
      split
      next => exact ⟨0, '\n', escapedLines 0 s, by omega, by decide, rfl⟩
      next =>
      rcases escaped_cases c with ⟨he, -⟩ | ⟨code, he, -⟩
      · exact ⟨0, c, escapedLines 0 s, by omega, hc, by rw [he]; rfl⟩
      · exact ⟨0, '\\', code ++ escapedLines 0 s, by omega, by decide, by rw [he]; rfl⟩

theorem longEscapedOrPlain?_of_ne (h : c ≠ '\\') (s : Text) :
    longEscapedOrPlain? (c :: s) = (lineFeed? (c :: s) <|> plain? (c :: s)) := by
  rw [longEscapedOrPlain?]
  rintro t ht
  exact h (List.cons.inj ht).1

theorem newline?_eq_none (hn : c ≠ '\n') (hr : c ≠ '\r') (s : Text) : newline? (c :: s) = none := by
  rw [newline?]
  · rintro t ht
    exact hn (List.cons.inj ht).1
  · rintro t ht
    exact hr (List.cons.inj ht).1

/-- A plain character in a string over several lines is read as it is. -/
theorem lineFeed?_or_plain? (h : needsEscape c = false) (s : Text) :
    (lineFeed? (c :: s) <|> plain? (c :: s)) = some ([c], s) := by
  by_cases hn : c = '\n'
  · rw [hn]
    rfl
  · rw [lineFeed?, newline?_eq_none hn (ne_return_of_needsEscape h), plain?,
      if_pos (isPlain_of_needsEscape h hn)]
    rfl

/-- The first character of a string between triple quotation marks is read as it was. -/
theorem longEscapedOrPlain?_escapedLines {marks : Nat} (hmarks : marks ≤ 2) (c : Char) (s : Text) :
    ∃ marks' ≤ 2, ∀ tail, longEscapedOrPlain? (escapedLines marks (c :: s) ++ tail) =
      some ([c], escapedLines marks' s ++ tail) := by
  by_cases hc : c = '"'
  · subst hc
    by_cases hm : marks < 2
    · refine ⟨marks + 1, by omega, fun tail => ?_⟩
      rw [escapedLines_quote hm, List.cons_append, longEscapedOrPlain?_of_ne (by decide),
        lineFeed?_or_plain? (by decide)]
    · refine ⟨0, by omega, fun tail => ?_⟩
      rw [escapedLines_third hm]
      rfl
  · refine ⟨0, by omega, fun tail => ?_⟩
    rw [escapedLines_cons hc, List.append_assoc]
    by_cases hn : c = '\n'
    · rw [if_pos hn, hn]
      rfl
    · rw [if_neg hn]
      rcases escaped_cases c with ⟨he, hbackslash, hneeds⟩ | ⟨code, he, hcode⟩
      · rw [he, List.singleton_append, longEscapedOrPlain?_of_ne hbackslash,
          lineFeed?_or_plain? hneeds]
      · obtain ⟨hread, hend⟩ := hcode (escapedLines 0 s ++ tail)
        rw [he, List.cons_append, longEscapedOrPlain?, hend]
        exact hread

/-- What follows the opening marks is the string, without the line end that may stand before it. -/
theorem dropNewline_openingLine {t : Text} (h : '\n' ∉ s → newline? t = none) :
    dropNewline (openingLine s ++ t) = t := by
  rw [openingLine]
  split
  next => rfl
  next hn =>
    rw [List.nil_append, dropNewline, h hn]
    rfl

theorem newline?_escapedLines (h : '\n' ∉ s) (rest : Text) :
    newline? (escapedLines 0 s ++ '"' :: rest) = none := by
  cases s with
  | nil => rfl
  | cons c s =>
    by_cases hc : c = '"'
    · rw [hc]
      rfl
    · have hn : c ≠ '\n' := fun hn => h (hn ▸ List.mem_cons_self)
      rw [escapedLines_cons hc, if_neg hn]
      rcases escaped_cases c with ⟨he, -, hneeds⟩ | ⟨code, he, -⟩
      · rw [he]
        exact newline?_eq_none hn (ne_return_of_needsEscape hneeds) _
      · rw [he]
        rfl

theorem length_le_length_escapedLines (marks : Nat) (s : Text) :
    s.length ≤ (escapedLines marks s).length := by
  induction s generalizing marks with
  | nil => exact Nat.zero_le _
  | cons c s ih =>
    by_cases hc : c = '"'
    · subst hc
      by_cases hm : marks < 2
      · rw [escapedLines_quote hm]
        exact Nat.succ_le_succ (ih (marks + 1))
      · rw [escapedLines_third hm]
        exact Nat.le_succ_of_le (Nat.succ_le_succ (ih 0))
    · have hpos : 0 < (if c = '\n' then ['\n'] else escaped c).length := by
        split
        next => exact Nat.one_pos
        next =>
          rcases escaped_cases c with ⟨he, -⟩ | ⟨code, he, -⟩ <;> rw [he] <;> exact Nat.succ_pos _
      have hlength := ih 0
      rw [escapedLines_cons hc, List.length_append, List.length_cons]
      omega

/-- A string over several lines between quotation marks is read as it was. -/
theorem longBasic?_escapedLines (s : Text) (hrest : rest.head? ≠ some '"') :
    longBasic? (openingLine s ++ escapedLines 0 s ++ (List.replicate 3 '"' ++ rest)) =
      some (s, rest) := by
  have hstep : ∀ marks s, marks ≤ 2 →
      (∃ n ≤ 2, s = List.replicate n '"' ∧ escapedLines marks s = s) ∨
      ∃ c s' marks', s = c :: s' ∧ marks' ≤ 2 ∧ ∀ tail,
        longClosing? '"' (escapedLines marks s ++ tail) = none ∧
          longEscapedOrPlain? (escapedLines marks s ++ tail) =
            some ([c], escapedLines marks' s' ++ tail) := by
    intro marks s hmarks
    rcases escapedLines_run hmarks s with ⟨n, hn, hs, he⟩ | ⟨n, d, more, hn, hd, he⟩
    · exact .inl ⟨n, by omega, hs, he⟩
    · cases s with
      | nil => simp [escapedLines] at he
      | cons c s' =>
        obtain ⟨marks', hmarks', hread⟩ := longEscapedOrPlain?_escapedLines hmarks c s'
        refine .inr ⟨c, s', marks', rfl, hmarks', fun tail => ⟨?_, hread tail⟩⟩
        rw [he, List.append_assoc, List.cons_append]
        exact longClosing?_eq_none (by omega) hd _
  have hopening := dropNewline_openingLine (s := s)
    (t := escapedLines 0 s ++ (List.replicate 3 '"' ++ rest)) fun h => newline?_escapedLines h _
  have hlength := length_le_length_escapedLines 0 s
  rw [longBasic?, List.append_assoc, hopening]
  refine readUntil_long escapedLines hstep hrest (Nat.zero_le 2) ?_
  rw [List.length_append, List.length_append]
  omega

/-! ### Between apostrophes -/

/-- If there are no long runs of a mark, counted with those right before, then at most two marks stand
before something else or the end comes. -/
theorem run_of_longestRunAfter {marks : Nat} (h : longestRunAfter mark marks s ≤ 2) :
    (∃ n, n + marks ≤ 2 ∧ s = List.replicate n mark) ∨
      ∃ n d more, n + marks ≤ 2 ∧ d ≠ mark ∧ s = List.replicate n mark ++ d :: more := by
  induction s generalizing marks with
  | nil => exact .inl ⟨0, by rw [longestRunAfter] at h; omega, rfl⟩
  | cons c s ih =>
    rw [longestRunAfter] at h
    split at h
    next hc =>
      subst hc
      rcases ih h with ⟨n, hn, hs⟩ | ⟨n, d, more, hn, hd, hs⟩
      · exact .inl ⟨n + 1, by omega, by rw [List.replicate_succ, ← hs]⟩
      · exact .inr ⟨n + 1, d, more, by omega, hd, by rw [hs, List.replicate_succ]; rfl⟩
    next hc => exact .inr ⟨0, c, s, by omega, hc, rfl⟩

/-- A string over several lines between apostrophes is read as it was, if it needs no escapes and not
three apostrophes stand side by side in it. -/
theorem longLiteral?_plain (hplain : ∀ c ∈ s, needsEscape c = false) (hmarks : longestRun '\'' s ≤ 2)
    (hrest : rest.head? ≠ some '\'') :
    longLiteral? (openingLine s ++ s ++ (List.replicate 3 '\'' ++ rest)) = some (s, rest) := by
  have hstep : ∀ marks s, (∀ c ∈ s, needsEscape c = false) ∧ longestRunAfter '\'' marks s ≤ 2 →
      (∃ n ≤ 2, s = List.replicate n '\'' ∧ s = s) ∨
      ∃ c s' marks', s = c :: s' ∧
        ((∀ c ∈ s', needsEscape c = false) ∧ longestRunAfter '\'' marks' s' ≤ 2) ∧ ∀ tail,
        longClosing? '\'' (s ++ tail) = none ∧ longPlain? (s ++ tail) = some ([c], s' ++ tail) := by
    rintro marks s ⟨hplain, hmarks⟩
    rcases run_of_longestRunAfter hmarks with ⟨n, hn, hs⟩ | ⟨n, d, more, hn, hd, hs⟩
    · exact .inl ⟨n, by omega, hs, rfl⟩
    · cases s with
      | nil => simp at hs
      | cons c s' =>
        rw [longestRunAfter] at hmarks
        refine .inr ⟨c, s', if c = '\'' then marks + 1 else 0, rfl,
          ⟨fun c hc => hplain c (List.mem_cons_of_mem _ hc), ?_⟩, fun tail => ⟨?_, ?_⟩⟩
        · split at hmarks
          next hc => rwa [if_pos hc]
          next hc =>
            rw [if_neg hc]
            omega
        · rw [hs, List.append_assoc, List.cons_append]
          exact longClosing?_eq_none (by omega) hd _
        · exact lineFeed?_or_plain? (hplain c List.mem_cons_self) _
  have hopening := dropNewline_openingLine (s := s) (t := s ++ (List.replicate 3 '\'' ++ rest)) ?_
  · rw [longLiteral?, List.append_assoc, hopening]
    refine readUntil_long (fun _ s => s) hstep hrest ⟨hplain, hmarks⟩ ?_
    rw [List.length_append, List.length_append]
    omega
  · intro h
    cases s with
    | nil => rfl
    | cons c s =>
      have hn : c ≠ '\n' := fun hn => h (hn ▸ List.mem_cons_self)
      exact newline?_eq_none hn (ne_return_of_needsEscape (hplain c List.mem_cons_self)) _

/-! ## Strings in any style -/

theorem string?_basic {t : Text} (h : ∀ u, t ≠ '"' :: '"' :: u) : string? ('"' :: t) = basic? t := by
  rw [string?]
  exact h

theorem string?_literal {t : Text} (h : ∀ u, t ≠ '\'' :: '\'' :: u) :
    string? ('\'' :: t) = literal? t := by
  rw [string?]
  exact h

theorem not_needsEscape_of_any (h : ¬ s.any needsEscape = true) : ∀ c ∈ s, needsEscape c = false :=
  fun c hc => Bool.eq_false_iff.mpr fun hn => h (List.any_eq_true.mpr ⟨c, hc, hn⟩)

/-- Apostrophes are chosen only where no escape is needed and they do not end the string too early. -/
theorem styleOf_literal (h : styleOf s = .literal) :
    (∀ c ∈ s, needsEscape c = false) ∧ '\'' ∉ s ∧ '\n' ∉ s := by
  rw [styleOf] at h
  split at h
  next => cases h
  next =>
  split at h
  next hcond => exact ⟨not_needsEscape_of_any hcond.1, hcond.2⟩
  next =>
  split at h
  next => cases h
  next =>
  split at h
  next => cases h
  next => split at h <;> cases h

theorem styleOf_longLiteral (h : styleOf s = .longLiteral) :
    (∀ c ∈ s, needsEscape c = false) ∧ longestRun '\'' s ≤ 2 := by
  rw [styleOf] at h
  split at h
  next => cases h
  next =>
  split at h
  next => cases h
  next =>
  split at h
  next => cases h
  next =>
  split at h
  next hcond => exact ⟨not_needsEscape_of_any hcond.1, hcond.2⟩
  next => split at h <;> cases h

/-- Whatever a string holds, it is read as it was written, if no mark follows it. -/
theorem string?_quote (s : Text) (hquote : rest.head? ≠ some '"') (happ : rest.head? ≠ some '\'') :
    string? (quote s ++ rest) = some (s, rest) := by
  rw [quote]
  cases hstyle : styleOf s with
  | basic =>
    have htext : QuoteStyle.basic.quote s ++ rest = '"' :: (escapedLine s ++ '"' :: rest) := by
      simp [QuoteStyle.quote]
    rw [htext, string?_basic, basic?_escapedLine]
    -- two more marks would come only from what follows
    intro u hu
    cases s with
    | nil =>
      rw [escapedLine_eq, List.flatMap_nil, List.nil_append] at hu
      exact hquote (by rw [(List.cons.inj hu).2]; rfl)
    | cons c s =>
      have hstop := (escapedOrPlain?_escapedOnLine c (escapedLine s ++ '"' :: rest)).1
      rw [escapedLine_eq, List.flatMap_cons, List.append_assoc, ← escapedLine_eq] at hu
      rw [hu, closing?, if_pos rfl] at hstop
      cases hstop
  | literal =>
    obtain ⟨hplain, hmark, hn⟩ := styleOf_literal hstyle
    have htext : QuoteStyle.literal.quote s ++ rest = '\'' :: (s ++ '\'' :: rest) := by
      simp [QuoteStyle.quote]
    have hchars : ∀ c ∈ s, isPlain c = true := fun c hc =>
      isPlain_of_needsEscape (hplain c hc) fun h => hn (h ▸ hc)
    rw [htext, string?_literal, literal?_plain hchars hmark]
    intro u hu
    cases s with
    | nil => exact happ (by rw [(List.cons.inj hu).2]; rfl)
    | cons c s =>
      rw [List.cons_append] at hu
      exact hmark ((List.cons.inj hu).1 ▸ List.mem_cons_self)
  | longBasic =>
    have htext : QuoteStyle.longBasic.quote s ++ rest = '"' :: '"' :: '"' ::
        (openingLine s ++ escapedLines 0 s ++ (List.replicate 3 '"' ++ rest)) := by
      simp [QuoteStyle.quote, List.replicate]
    rw [htext]
    exact longBasic?_escapedLines s hquote
  | longLiteral =>
    obtain ⟨hplain, hmarks⟩ := styleOf_longLiteral hstyle
    have htext : QuoteStyle.longLiteral.quote s ++ rest = '\'' :: '\'' :: '\'' ::
        (openingLine s ++ s ++ (List.replicate 3 '\'' ++ rest)) := by
      simp [QuoteStyle.quote, List.replicate]
    rw [htext]
    exact longLiteral?_plain hplain hmarks happ

end Toml

end Scribe
