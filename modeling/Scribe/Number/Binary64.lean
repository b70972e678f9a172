import Scribe.Text.Numeral

/-!
# Binary floating-point numbers

Numbers with a significand of 53 bits, in exact arithmetic: every finite one is a whole number of
units of 2⁻¹⁰⁷⁴. A decimal is rounded to the nearest number, ties to the even significand; a number
is written with the fewest decimal digits that are rounded back to it.

* `ofDecimal` rounds a decimal, `parse?` reads one.
* `text` writes a number, without an exponent however many zeros that takes.
-/

namespace Scribe

/-- A binary floating-point number. -/
inductive Binary64 where
  /-- A size in units of 2⁻¹⁰⁷⁴, with a sign; zero has one too. -/
  | finite (negative : Bool) (units : Nat)
  | infinite (negative : Bool)
  /-- What is not a number. -/
  | nan
deriving DecidableEq

namespace Binary64

/-- The number of units in one. -/
def one : Nat := Nat.pow 2 1074

/-- The least number of units that is too large for a finite number. -/
def overflow : Nat := Nat.pow 2 (1074 + 1024)

/-! ## Rounding -/

/-- The whole number nearest to a quotient, of two equally near ones the even one. -/
def nearest (num den : Nat) : Nat :=
  let q := num / den
  let r := num % den
  if 2 * r < den ∨ 2 * r = den ∧ q % 2 = 0 then q else q + 1

/-- The size nearest to a quotient of units, of those with a significand of 53 bits. -/
def roundedUnits (num den : Nat) : Nat :=
  let shift := (num / den).log2 - 52
  nearest num (den * Nat.pow 2 shift) * Nat.pow 2 shift

/-- The number nearest to `digits · 10 ^ exponent`, or infinity if that is too large. Exponents that
lead far out of range are not computed with. -/
def ofDecimal (negative : Bool) (digits : Nat) (exponent : Int) : Binary64 :=
  let magnitude := (Text.ofNat digits).length + exponent
  if digits = 0 ∨ magnitude < -330 then finite negative 0
  else if 310 < magnitude then infinite negative
  else
    let units :=
      roundedUnits (digits * one * Nat.pow 10 exponent.toNat) (Nat.pow 10 (-exponent).toNat)
    if units < overflow then finite negative units else infinite negative

/-! ## Reading -/

/-- The digits and the exponent of a decimal: digits on at least one side of a point that may be
missing, and an exponent that may be missing. -/
def decimal? (s : Text) : Option (Nat × Int) := do
  let whole := s.takeWhile Char.isDigit
  let (fraction, rest) :=
    match s.dropWhile Char.isDigit with
    | '.' :: s => (s.takeWhile Char.isDigit, s.dropWhile Char.isDigit)
    | s => ([], s)
  guard (whole ++ fraction ≠ [])
  let exponent ←
    match rest with
    | [] => some 0
    | 'e' :: s | 'E' :: s => Text.integer? s
    | _ => none
  return (Nat.ofDigitChars 10 (whole ++ fraction) 0, exponent - fraction.length)

/-- The number that a text denotes: a decimal, or the name of infinity or of what is not a number, in
letters of any case, after a sign if need be. -/
def parse? (s : Text) : Option Binary64 :=
  let (negative, s) := Text.unsign s
  let name := s.map Char.toLower
  if name = "inf".toList ∨ name = "infinity".toList then some (infinite negative)
  else if name = "nan".toList then some nan
  else (decimal? s).map fun (digits, exponent) => ofDecimal negative digits exponent

/-! ## Writing -/

/-- The exponent of the first digit of a size that is not zero. -/
def leadingExponent (units : Nat) : Int :=
  if one ≤ units then (Text.ofNat (units / one)).length - 1
  else -(Text.ofNat ((one - 1) / units)).length

/-- The decimal of `count` digits nearest to a size, if it is rounded back to the size. -/
def digitsOf? (units count : Nat) : Option (Nat × Int) :=
  let exponent := leadingExponent units - count + 1
  let num := units * Nat.pow 10 (-exponent).toNat
  let den := one * Nat.pow 10 exponent.toNat
  let readsBack (digits : Nat) : Bool := ofDecimal false digits exponent = finite false units
  let below := num / den
  let candidates :=
    if 2 * (num % den) ≤ den then [below, below + 1] else [below + 1, below]
  (candidates.find? readsBack).map fun digits => (digits, exponent)

/-- The shortest decimal that is rounded to a size that is not zero. -/
def shortest (units : Nat) : Nat × Int :=
  ((List.range 17).findSome? fun n => digitsOf? units (n + 1)).getD (0, 0)

/-- A decimal without an exponent, and without zeros behind the point that do not count. -/
def positional (digits : Nat) (exponent : Int) : Text :=
  if 0 ≤ exponent then Text.ofNat digits ++ List.replicate exponent.toNat '0'
  else
    let places := (-exponent).toNat
    let padded := (Text.ofNat digits).leftpad (places + 1) '0'
    let whole := padded.take (padded.length - places)
    let fraction := (padded.drop (padded.length - places)).reverse.dropWhile (· = '0')
    if fraction = [] then whole else whole ++ '.' :: fraction.reverse

/-- The text of a number. -/
def text : Binary64 → Text
  | nan => "NaN".toList
  | infinite negative => (if negative then ['-'] else []) ++ "inf".toList
  | finite negative units =>
    (if negative then ['-'] else []) ++
      if units = 0 then ['0'] else positional (shortest units).1 (shortest units).2

/-! ## Conversions -/

/-- Whether a number is finite. -/
def isFinite : Binary64 → Bool
  | finite _ _ => true
  | _ => false

/-- Whether a number is zero, of either sign. -/
def isZero : Binary64 → Bool
  | finite _ units => units = 0
  | _ => false

/-- The nearest whole number from zero up to a bound, a half being rounded up. -/
def toNatWithin (bound : Nat) : Binary64 → Nat
  | finite false units => min bound ((units + one / 2) / one)
  | infinite false => bound
  | _ => 0

end Binary64

end Scribe
