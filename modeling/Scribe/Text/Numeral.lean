import Scribe.Text.Lines

/-!
# Numerals

Whole numbers as text, in base ten and base eight, and the way back: `natural?_ofNat`.
-/

namespace Scribe

namespace Text

/-- The decimal numeral of a natural number, without leading zeros. -/
def ofNat (n : Nat) : Text := Nat.toDigits 10 n

/-- The octal numeral of a natural number, without leading zeros. -/
def octal (n : Nat) : Text := Nat.toDigits 8 n

/-- The decimal numeral of an integer: a minus sign, if it is negative, and its size. -/
def ofInt (i : Int) : Text := if i < 0 then '-' :: ofNat i.natAbs else ofNat i.natAbs

/-- The number that a text of ASCII digits denotes, leading zeros allowed. -/
def natural? (s : Text) : Option Nat :=
  if s ≠ [] ∧ s.all Char.isDigit then some (Nat.ofDigitChars 10 s 0) else none

theorem ofNat_ne_nil (n : Nat) : ofNat n ≠ [] := Nat.toDigits_ne_nil

theorem isDigit_of_mem_ofNat {n : Nat} {c : Char} (h : c ∈ ofNat n) : c.isDigit :=
  Nat.isDigit_of_mem_toDigits (by decide) (by decide) h

/-- No numeral but that of zero starts with a zero. -/
theorem head?_ofNat_ne_zero {n : Nat} (h : n ≠ 0) : (ofNat n).head? ≠ some '0' := by
  induction n using Nat.strongRecOn with
  | ind n ih =>
    rw [ofNat]
    by_cases hn : n < 10
    · rw [Nat.toDigits_of_lt_base hn, List.head?_cons, ne_eq, Option.some.injEq]
      have hdigit : ∀ d < 10, d ≠ 0 → Nat.digitChar d ≠ '0' := by decide
      exact hdigit n hn h
    · have hrest := ih (n / 10) (by omega) (by omega)
      rw [Nat.toDigits_of_base_le (by decide) (by omega), List.head?_append]
      cases hdigits : Nat.toDigits 10 (n / 10) with
      | nil => exact absurd hdigits Nat.toDigits_ne_nil
      | cons d ds =>
        rw [ofNat, hdigits] at hrest
        exact hrest

@[simp] theorem natural?_ofNat (n : Nat) : natural? (ofNat n) = some n := by
  rw [natural?, if_pos ⟨ofNat_ne_nil n, List.all_eq_true.mpr fun _ => isDigit_of_mem_ofNat⟩, ofNat,
    Nat.ofDigitChars_ten_toDigits]

/-- A sign, if there is one, and the rest: `true` stands for minus. -/
def unsign : Text → Bool × Text
  | '-' :: s => (true, s)
  | '+' :: s => (false, s)
  | s => (false, s)

/-- The integer that a text denotes: digits, after a plus or a minus sign if need be. -/
def integer? (s : Text) : Option Int :=
  match unsign s with
  | (true, digits) => (natural? digits).map fun n => -(n : Int)
  | (false, digits) => (natural? digits).map fun n => (n : Int)

/-- The number that a text denotes: digits, after a plus sign if need be. -/
def unsigned? : Text → Option Nat
  | '+' :: s => natural? s
  | s => natural? s

end Text

end Scribe
