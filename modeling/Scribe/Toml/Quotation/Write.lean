import Scribe.Text.Lines

/-!
# Writing quoted strings

Of the four ways to quote a string the plainest is taken that needs no escapes: between quotation
marks, between apostrophes, and the two ways with three marks at each end. If none will do, the
string is written between quotation marks with escapes.
-/

namespace Scribe

namespace Toml

/-- The ways to quote a string. -/
inductive QuoteStyle where
  | basic
  | literal
  | longBasic
  | longLiteral
deriving DecidableEq

/-! ## The choice of a style -/

/-- A control character for which only an escape will do. -/
def needsEscape (c : Char) : Bool := (c.toNat < 0x20 && c ≠ '\t' && c ≠ '\n') || c.toNat = 0x7F

/-- The length of the longest run of a character, where `current` of them stand right before. -/
def longestRunAfter (mark : Char) (current : Nat) : Text → Nat
  | [] => current
  | c :: s =>
    if c = mark then longestRunAfter mark (current + 1) s
    else max current (longestRunAfter mark 0 s)

/-- The length of the longest run of a character. -/
def longestRun (mark : Char) (s : Text) : Nat := longestRunAfter mark 0 s

/-- The way in which a string is quoted. -/
def styleOf (s : Text) : QuoteStyle :=
  let multiline := '\n' ∈ s
  let plain := ¬ s.any needsEscape
  if plain ∧ '\\' ∉ s ∧ '"' ∉ s ∧ ¬ multiline then .basic
  else if plain ∧ '\'' ∉ s ∧ ¬ multiline then .literal
  else if plain ∧ '\\' ∉ s ∧ longestRun '"' s ≤ 2 then .longBasic
  else if plain ∧ longestRun '\'' s ≤ 2 then .longLiteral
  else if multiline then .longBasic
  else .basic

/-! ## Escapes -/

/-- A character between quotation marks, apart from the mark itself and the line feed. -/
def escaped (c : Char) : Text :=
  match c with
  | '\x08' => "\\b".toList
  | '\t' => "\\t".toList
  | '\x0C' => "\\f".toList
  | '\r' => "\\r".toList
  | '\\' => "\\\\".toList
  | c =>
    if needsEscape c then
      "\\u".toList ++ ((Nat.toDigits 16 c.toNat).map Char.toUpper).leftpad 4 '0'
    else [c]

/-- A string between single quotation marks. -/
def escapedLine (s : Text) : Text :=
  s.flatMap fun c => if c = '"' then "\\\"".toList else if c = '\n' then "\\n".toList else escaped c

/-- A string between triple quotation marks: of each three marks side by side the third is escaped.
So many stand right before. -/
def escapedLines (marks : Nat) : Text → Text
  | [] => []
  | '"' :: s =>
    if marks < 2 then '"' :: escapedLines (marks + 1) s
    else '\\' :: '"' :: escapedLines 0 s
  | c :: s => (if c = '\n' then ['\n'] else escaped c) ++ escapedLines 0 s

/-! ## Quoted strings -/

/-- The line end after triple marks, which is not part of the string. -/
def openingLine (s : Text) : Text := if '\n' ∈ s then ['\n'] else []

/-- A string, quoted in a style. -/
def QuoteStyle.quote (s : Text) : QuoteStyle → Text
  | basic => '"' :: escapedLine s ++ ['"']
  | literal => '\'' :: s ++ ['\'']
  | longBasic => "\"\"\"".toList ++ openingLine s ++ escapedLines 0 s ++ "\"\"\"".toList
  | longLiteral => "'''".toList ++ openingLine s ++ s ++ "'''".toList

/-- A string as it is written. -/
def quote (s : Text) : Text := (styleOf s).quote s

end Toml

end Scribe
