import Scribe.Toml.Writer
import Scribe.Toml.Numeral

/-!
# Whole numbers can be read

A whole number of 64 bits is read as it was written, if its line ends after it. It has to be told from
all that starts with digits as well: dates and times, decimals with a fraction or an exponent, and
whole numbers in other bases.

- `read?_digits`: digits at the end of a line are no date and no time.
- `decimalDigits?_ofNat`: the digits of a numeral are read together, since none but zero starts with a
  zero.
- `number?_ofInt`: whole numbers, with their signs.
-/

namespace Scribe

namespace Toml

variable {c stop : Char} {digits rest : Text}

/-! ## Neither a date nor a time -/

/-- A reader that went on has checked its condition. -/
theorem of_guard {p : Prop} [Decidable p] {u : Unit} (h : (guard p : Option Unit) = some u) :
    p := by
  by_cases hp : p
  · exact hp
  · have hnone : (guard p : Option Unit) = none := if_neg hp
    rw [hnone] at h
    cases h

/-- So many digits at the front of a text are all digits, and what follows is left. -/
theorem digits?_eq_some {count low high n : Nat} {s tail : Text}
    (h : digits? count low high s = some (n, tail)) :
    (s.take count).length = count ∧ (∀ c ∈ s.take count, c.isDigit) ∧ tail = s.drop count := by
  obtain ⟨m, hm, h⟩ := Option.bind_eq_some_iff.mp h
  obtain ⟨_, hguard, htail⟩ := Option.bind_eq_some_iff.mp h
  have hlength : (s.take count).length = count := (of_guard hguard).1
  have hdigits : ∀ c ∈ s.take count, c.isDigit := by
    rw [Text.natural?] at hm
    split at hm
    next hall => exact List.all_eq_true.mp hall.2
    next => cases hm
  exact ⟨hlength, hdigits, (Prod.mk.inj (Option.some.inj htail)).2.symm⟩

/-- Behind some of the digits stands another one, or what follows the digits. -/
theorem after?_eq_none {count low high n : Nat} {mark : Char} {tail : Text}
    (hdigits : ∀ c ∈ digits, c.isDigit) (hstop : stop.isDigit = false)
    (hmark : mark.isDigit = false) (hne : mark ≠ stop)
    (h : digits? count low high (digits ++ stop :: rest) = some (n, tail)) :
    after? mark tail = none := by
  obtain ⟨hlength, hall, rfl⟩ := digits?_eq_some h
  -- with more than the digits, what stops them would have to be one
  have hcount : count ≤ digits.length := by
    refine Nat.not_lt.mp fun hlt => ?_
    have hmem : stop ∈ (digits ++ stop :: rest).take count := by
      rw [List.take_append, List.mem_append]
      obtain ⟨k, hk⟩ : ∃ k, count - digits.length = k + 1 := ⟨count - digits.length - 1, by omega⟩
      rw [hk, List.take_succ_cons]
      exact .inr List.mem_cons_self
    exact absurd (hall stop hmem) (by simp [hstop])
  rw [List.drop_append_of_le_length hcount]
  cases hdrop : digits.drop count with
  | nil => rw [List.nil_append, after?, if_neg hne]
  | cons d ds =>
    have hd : d.isDigit := hdigits d (List.mem_of_mem_drop (hdrop ▸ List.mem_cons_self))
    rw [List.cons_append, after?, if_neg]
    rintro rfl
    rw [hmark] at hd
    cases hd

/-- What starts with something else than a digit does not start with so many digits. -/
theorem digits?_eq_none {count low high : Nat} (hc : c.isDigit = false) (s : Text) :
    digits? (count + 1) low high (c :: s) = none := by
  cases h : digits? (count + 1) low high (c :: s) with
  | none => rfl
  | some result =>
    obtain ⟨-, hall, -⟩ := digits?_eq_some h
    have := hall c (by rw [List.take_succ_cons]; exact List.mem_cons_self)
    rw [hc] at this
    cases this

/-- Digits that neither a dash nor a colon follows are no date and no time. -/
theorem read?_digits (hdigits : ∀ c ∈ digits, c.isDigit) (hstop : stop.isDigit = false)
    (hdash : '-' ≠ stop) (hcolon : ':' ≠ stop) :
    DateTime.read? (digits ++ stop :: rest) = none := by
  have hdate : Date.read? (digits ++ stop :: rest) = none := by
    rw [Date.read?]
    cases h : digits? 4 0 9999 (digits ++ stop :: rest) with
    | none => rfl
    | some result =>
      have hnone := after?_eq_none hdigits hstop (by decide) hdash h
      simp [hnone]
  have htime : Time.read? (digits ++ stop :: rest) = none := by
    rw [Time.read?]
    cases h : digits? 2 0 23 (digits ++ stop :: rest) with
    | none => rfl
    | some result =>
      have hnone := after?_eq_none hdigits hstop (by decide) hcolon h
      simp [hnone]
  rw [DateTime.read?, hdate, htime]
  rfl

/-- What starts with a sign is no date and no time. -/
theorem read?_sign (hc : c.isDigit = false) (s : Text) : DateTime.read? (c :: s) = none := by
  rw [DateTime.read?, Date.read?, Time.read?, digits?_eq_none hc, digits?_eq_none hc]
  rfl

/-! ## Digits -/

/-- Digits are read up to what is no digit. -/
theorem moreDigits_append (hdigits : ∀ c ∈ digits, c.isDigit) (hstop : stop.isDigit = false)
    (hne : stop ≠ '_') : moreDigits Char.isDigit (digits ++ stop :: rest) = (digits, stop :: rest) := by
  induction digits with
  | nil =>
    rw [List.nil_append, moreDigits.eq_2 _ _ _ fun _ _ h _ => hne h, hstop]
    rfl
  | cons d ds ih =>
    have hd : d.isDigit := hdigits d List.mem_cons_self
    have hmark : d ≠ '_' := by
      rintro rfl
      exact absurd hd (by decide)
    rw [List.cons_append, moreDigits.eq_2 _ _ _ fun _ _ h _ => hmark h, if_pos hd,
      ih fun c hc => hdigits c (List.mem_cons_of_mem d hc)]

/-- The digits of a numeral are read together: it starts with a zero only if that is all of it. -/
theorem decimalDigits?_ofNat (n : Nat) (hstop : stop.isDigit = false) (hne : stop ≠ '_')
    (rest : Text) :
    decimalDigits? (Text.ofNat n ++ stop :: rest) = some (Text.ofNat n, stop :: rest) := by
  have hdigits : ∀ c ∈ Text.ofNat n, c.isDigit := fun c => Text.isDigit_of_mem_ofNat
  by_cases hn : n = 0
  · rw [hn]
    rfl
  · cases htext : Text.ofNat n with
    | nil => exact absurd htext (Text.ofNat_ne_nil n)
    | cons d ds =>
      have hzero : d ≠ '0' := by
        rintro rfl
        exact Text.head?_ofNat_ne_zero hn (by rw [htext]; rfl)
      rw [htext] at hdigits
      rw [List.cons_append, decimalDigits?.eq_2 _ fun s h => hzero (List.cons.inj h).1, someDigits?,
        if_pos (hdigits d List.mem_cons_self),
        moreDigits_append (fun c hc => hdigits c (List.mem_cons_of_mem d hc)) hstop hne]

/-! ## Numbers -/

/-- A numeral in base ten, with its sign, is taken apart again. -/
theorem unsign_ofInt (i : Int) (s : Text) :
    Text.unsign (Text.ofInt i ++ s) = (decide (i < 0), Text.ofNat i.natAbs ++ s) := by
  rw [Text.ofInt]
  split
  next h => rw [decide_eq_true h]; rfl
  next h =>
  rw [decide_eq_false h]
  cases htext : Text.ofNat i.natAbs with
  | nil => exact absurd htext (Text.ofNat_ne_nil _)
  | cons d ds =>
    have hd : d.isDigit := Text.isDigit_of_mem_ofNat (htext ▸ List.mem_cons_self)
    rw [List.cons_append, Text.unsign.eq_3]
    · rintro s hs
      rw [(List.cons.inj hs).1] at hd
      exact absurd hd (by decide)
    · rintro s hs
      rw [(List.cons.inj hs).1] at hd
      exact absurd hd (by decide)

/-- Where a numeral stands there is neither infinity nor what is not a number. -/
theorem special?_ofNat (negative : Bool) (n : Nat) (s : Text) :
    special? negative (Text.ofNat n ++ s) = none := by
  cases htext : Text.ofNat n with
  | nil => exact absurd htext (Text.ofNat_ne_nil n)
  | cons d ds =>
    have hd : d.isDigit := Text.isDigit_of_mem_ofNat (htext ▸ List.mem_cons_self)
    rw [List.cons_append, special?]
    · rintro t ht
      rw [(List.cons.inj ht).1] at hd
      exact absurd hd (by decide)
    · rintro t ht
      rw [(List.cons.inj ht).1] at hd
      exact absurd hd (by decide)

/-- No letter that announces another base stands behind a zero. -/
theorem integer?_ofInt (i : Int) (rest : Text) :
    integer? (Text.ofInt i ++ '\n' :: rest) = decimalInteger? (Text.ofInt i ++ '\n' :: rest) := by
  by_cases hi : i = 0
  · rw [hi]
    rfl
  · have hhead : (Text.ofInt i ++ '\n' :: rest).head? ≠ some '0' := by
      have hne := Text.head?_ofNat_ne_zero (Int.natAbs_ne_zero.mpr hi)
      rw [Text.ofInt]
      split
      next => simp
      next =>
      cases htext : Text.ofNat i.natAbs with
      | nil => exact absurd htext (Text.ofNat_ne_nil _)
      | cons d ds =>
        rw [htext] at hne
        exact hne
    rw [integer?]
    all_goals
      rintro s hs
      exact hhead (by rw [hs]; rfl)

/-- A whole number of 64 bits is read as it was, if its line ends after it. -/
theorem number?_ofInt {i : Int} (hi : isWord i) (rest : Text) :
    number? (Text.ofInt i ++ '\n' :: rest) = some (.integer i, '\n' :: rest) := by
  have hdigits : decimalDigits? (Text.ofNat i.natAbs ++ '\n' :: rest) =
      some (Text.ofNat i.natAbs, '\n' :: rest) :=
    decimalDigits?_ofNat i.natAbs (by decide) (by decide) rest
  have hsign := unsign_ofInt i ('\n' :: rest)
  have hdate : DateTime.read? (Text.ofInt i ++ '\n' :: rest) = none := by
    rw [Text.ofInt]
    split
    · exact read?_sign (by decide) _
    · exact read?_digits (fun c => Text.isDigit_of_mem_ofNat) (by decide) (by decide) (by decide)
  -- the line ends after the digits, so that there is no point and no exponent
  have hfloat : startsFloat (Text.ofInt i ++ '\n' :: rest) = false := by
    rw [startsFloat, hsign]
    simp only [hdigits]
    rfl
  have hvalue : (if decide (i < 0) = true then -(i.natAbs : Int) else i.natAbs) = i := by
    by_cases hneg : i < 0
    · rw [if_pos (decide_eq_true hneg)]
      omega
    · rw [if_neg (by simpa using hneg)]
      omega
  have hdecimal : decimalInteger? (Text.ofInt i ++ '\n' :: rest) =
      some (.integer i, '\n' :: rest) := by
    have hguard : (guard (isWord i = true) : Option Unit) = some () := if_pos hi
    rw [decimalInteger?, hsign]
    show (decimalDigits? _ >>= _) = _
    rw [hdigits]
    show (Text.natural? _ >>= _) = _
    rw [Text.natural?_ofNat]
    show ((guard (isWord (if decide (i < 0) = true then -(i.natAbs : Int) else i.natAbs) = true) :
      Option Unit) >>= fun _ => some (Value.integer _, '\n' :: rest)) = _
    rw [hvalue, hguard]
    rfl
  rw [number?, hdate]
  simp only [hfloat, hsign, special?_ofNat, integer?_ofInt, hdecimal]
  rfl

end Toml

end Scribe
