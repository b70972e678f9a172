import Scribe.Toml.Lexis

/-!
# Reading quoted strings

A string stands between quotation marks or between apostrophes. Between quotation marks a backslash
starts an escape. If there are three marks at each end, the string may go over several lines: a line
end right after the first marks is not part of it, and up to two marks before the last three are.
-/

namespace Scribe

namespace Toml

/-! ## Escapes -/

/-- The value of a hexadecimal digit. -/
def hexDigit? (c : Char) : Option Nat :=
  if c.isDigit then some (c.toNat - '0'.toNat)
  else if 'a' ≤ c ∧ c ≤ 'f' then some (c.toNat - 'a'.toNat + 10)
  else if 'A' ≤ c ∧ c ≤ 'F' then some (c.toNat - 'A'.toNat + 10)
  else none

/-- The number that hexadecimal digits denote. -/
def hexadecimal? (digits : Text) : Option Nat :=
  digits.foldlM (fun n c => (hexDigit? c).map (16 * n + ·)) 0

/-- Reads the character of which this many hexadecimal digits give the code point. -/
def codePoint? (count : Nat) : Reader Text := fun s => do
  let n ← hexadecimal? (s.take count)
  guard ((s.take count).length = count ∧ n.isValidChar)
  return ([Char.ofNat n], s.drop count)

/-- Reads what follows a backslash. -/
def escape? : Reader Text
  | 'b' :: s => some (['\x08'], s)
  | 't' :: s => some (['\t'], s)
  | 'n' :: s => some (['\n'], s)
  | 'f' :: s => some (['\x0C'], s)
  | 'r' :: s => some (['\r'], s)
  | '"' :: s => some (['"'], s)
  | '\\' :: s => some (['\\'], s)
  | 'u' :: s => codePoint? 4 s
  | 'U' :: s => codePoint? 8 s
  | _ => none

/-! ## Strings on one line -/

/-- Reads the mark that ends a string. -/
def closing? (mark : Char) : Reader Text
  | c :: s => if c = mark then some ([], s) else none
  | [] => none

/-- Reads a character that stands for itself. -/
def plain? : Reader Text
  | c :: s => if isPlain c then some ([c], s) else none
  | [] => none

/-- Reads a character that stands for itself or an escape. -/
def escapedOrPlain? : Reader Text
  | '\\' :: s => escape? s
  | s => plain? s

/-- Reads a string on one line between quotation marks, after the first of them. -/
def basic? : Reader Text := fun s => readUntil (closing? '"') escapedOrPlain? (s.length + 1) s

/-- Reads a string on one line between apostrophes, after the first of them. -/
def literal? : Reader Text := fun s => readUntil (closing? '\'') plain? (s.length + 1) s

/-! ## Strings over several lines -/

/-- Reads the three marks that end a string, and up to two more before them. -/
def longClosing? (mark : Char) : Reader Text := fun s =>
  let run := (s.takeWhile (· = mark)).length
  if run < 3 then none
  else
    let inside := min (run - 3) 2
    some (List.replicate inside mark, s.drop (inside + 3))

/-- Reads a line end, as a line feed. -/
def lineFeed? : Reader Text := fun s => (newline? s).map fun s => (['\n'], s)

/-- What follows a backslash at the end of a line, and all space after it. -/
def continuation? (s : Text) : Option Text := (newline? (skipBlanks s)).map skipSpace

/-- Reads a piece of a string over several lines between quotation marks. -/
def longEscapedOrPlain? : Reader Text
  | '\\' :: s =>
    match continuation? s with
    | some s => some ([], s)
    | none => escape? s
  | s => lineFeed? s <|> plain? s

/-- Reads a piece of a string over several lines between apostrophes. -/
def longPlain? : Reader Text := fun s => lineFeed? s <|> plain? s

/-- What follows a line end, if the text starts with one. -/
def dropNewline (s : Text) : Text := (newline? s).getD s

/-- Reads a string over several lines between quotation marks, after the first three of them. -/
def longBasic? : Reader Text := fun s =>
  readUntil (longClosing? '"') longEscapedOrPlain? (s.length + 1) (dropNewline s)

/-- Reads a string over several lines between apostrophes, after the first three of them. -/
def longLiteral? : Reader Text := fun s =>
  readUntil (longClosing? '\'') longPlain? (s.length + 1) (dropNewline s)

/-- Reads a string of any of the four kinds. -/
def string? : Reader Text
  | '"' :: '"' :: '"' :: s => longBasic? s
  | '"' :: s => basic? s
  | '\'' :: '\'' :: '\'' :: s => longLiteral? s
  | '\'' :: s => literal? s
  | _ => none

end Toml

end Scribe
