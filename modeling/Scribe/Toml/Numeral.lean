import Scribe.Toml.Lexis
import Scribe.Toml.Quotation.Read
import Scribe.Toml.Value

/-!
# Reading numbers

Whole numbers of 64 bits in base ten, sixteen, eight or two, and floating-point numbers. Single
underscores may stand between digits. A decimal starts with a zero only if that is all there is
before the point.
-/

namespace Scribe

namespace Toml

/-! ## Digits -/

/-- Reads digits after the first, each perhaps after an underscore; the underscores are left out. -/
def moreDigits (isDigit : Char → Bool) : Text → Text × Text
  | '_' :: c :: s =>
    if isDigit c then
      let (digits, rest) := moreDigits isDigit s
      (c :: digits, rest)
    else ([], '_' :: c :: s)
  | c :: s =>
    if isDigit c then
      let (digits, rest) := moreDigits isDigit s
      (c :: digits, rest)
    else ([], c :: s)
  | [] => ([], [])

/-- Reads at least one digit. -/
def someDigits? (isDigit : Char → Bool) : Reader Text
  | c :: s =>
    if isDigit c then
      let (digits, rest) := moreDigits isDigit s
      some (c :: digits, rest)
    else none
  | [] => none

/-- Reads the digits of a decimal: a zero, or digits that do not start with one. -/
def decimalDigits? : Reader Text
  | '0' :: s => some (['0'], s)
  | s => someDigits? Char.isDigit s

/-! ## Whole numbers -/

/-- The whole numbers of 64 bits. -/
def isWord (n : Int) : Bool := -0x8000000000000000 ≤ n && n < 0x8000000000000000

/-- Whether a character is a digit in a base up to sixteen. -/
def isDigitIn (base : Nat) (c : Char) : Bool :=
  match hexDigit? c with
  | some n => n < base
  | none => false

/-- The number that digits denote in a base up to sixteen. -/
def valueIn (base : Nat) (digits : Text) : Nat :=
  digits.foldl (fun n c => base * n + (hexDigit? c).getD 0) 0

/-- Reads a whole number in another base, after what announces the base. -/
def integerIn? (base : Nat) : Reader Value := fun s => do
  let (digits, s) ← someDigits? (isDigitIn base) s
  guard (isWord (valueIn base digits))
  return (.integer (valueIn base digits), s)

/-- Reads a whole number in base ten. -/
def decimalInteger? : Reader Value := fun s => do
  let (negative, s) := Text.unsign s
  let (digits, s) ← decimalDigits? s
  let n ← Text.natural? digits
  let n : Int := if negative then -n else n
  guard (isWord n)
  return (.integer n, s)

/-- Reads a whole number. -/
def integer? : Reader Value
  | '0' :: 'x' :: s => integerIn? 16 s
  | '0' :: 'o' :: s => integerIn? 8 s
  | '0' :: 'b' :: s => integerIn? 2 s
  | s => decimalInteger? s

/-! ## Floating-point numbers -/

/-- Reads a fraction, with its point; none is there if there is no point. -/
def fraction? : Reader Text
  | '.' :: s => (someDigits? Char.isDigit s).map fun (digits, s) => ('.' :: digits, s)
  | s => some ([], s)

/-- Reads a sign, if there is one. -/
def sign : Text → Text × Text
  | '+' :: s => (['+'], s)
  | '-' :: s => (['-'], s)
  | s => ([], s)

/-- Reads an exponent, with its letter; none is there if there is no letter. -/
def exponent? : Reader Text
  | 'e' :: s | 'E' :: s => do
    let (sign, s) := sign s
    let (digits, s) ← someDigits? Char.isDigit s
    return ('e' :: sign ++ digits, s)
  | s => some ([], s)

/-- Reads infinity or what is not a number, after the sign. -/
def special? (negative : Bool) : Reader Value
  | 'i' :: 'n' :: 'f' :: s => some (.float (.infinite negative), s)
  | 'n' :: 'a' :: 'n' :: s => some (.float .nan, s)
  | _ => none

/-- Reads a decimal with a fraction or an exponent; one that is too large is refused, one that is too
small is not. -/
def decimalFloat? : Reader Value := fun s => do
  let (sign, s) := sign s
  let (whole, s) ← decimalDigits? s
  let (fraction, s) ← fraction? s
  let (exponent, s) ← exponent? s
  guard (fraction ++ exponent ≠ [])
  let x ← Binary64.parse? (sign ++ whole ++ fraction ++ exponent)
  guard (x ≠ .infinite false)
  return (.float x, s)

/-- Whether a decimal at the front of a text has a fraction or an exponent. -/
def startsFloat (s : Text) : Bool :=
  match decimalDigits? (Text.unsign s).2 with
  | some (_, '.' :: _) | some (_, 'e' :: _) | some (_, 'E' :: _) => true
  | _ => false

/-- Reads what starts with a digit or a sign: a date or time, or a number. -/
def number? : Reader Value := fun s =>
  match DateTime.read? s with
  | some (d, rest) => some (.dateTime d, rest)
  | none =>
    if startsFloat s then decimalFloat? s
    else
      let (negative, unsigned) := Text.unsign s
      special? negative unsigned <|> integer? s

end Toml

end Scribe
