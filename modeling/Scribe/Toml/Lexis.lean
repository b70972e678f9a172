import Scribe.Text.Lines

/-!
# The lexis of TOML

The characters that may stand in a document, and what may stand between its parts: blanks, comments
and line ends. A reader takes what it reads from the front of a text and hands over the rest.
-/

namespace Scribe

namespace Toml

/-- Reads something from the front of a text. -/
abbrev Reader (α : Type) := Text → Option (α × Text)

/-! ## Characters -/

/-- A character that may stand for itself: no control but the tab, and not the delete character. -/
def isPlain (c : Char) : Bool := c = '\t' || (0x20 ≤ c.toNat && c.toNat ≠ 0x7F)

/-- A blank within a line. -/
def isBlank (c : Char) : Bool := c = ' ' || c = '\t'

/-- A character of a key without quotes. -/
def isBare (c : Char) : Bool := c.isAlphanum || c = '_' || c = '-'

theorem isPlain_newline : isPlain '\n' = false := by decide

/-! ## Between the parts -/

/-- What follows the blanks. -/
def skipBlanks (s : Text) : Text := s.dropWhile isBlank

/-- What follows a line end. -/
def newline? : Text → Option Text
  | '\n' :: s | '\r' :: '\n' :: s => some s
  | _ => none

/-- What follows the comment, if there is one; its line end is left. -/
def skipComment : Text → Text
  | '#' :: s => s.dropWhile isPlain
  | s => s

/-- What follows the end of a line that holds nothing more but blanks and a comment. -/
def endLine? (s : Text) : Option Text :=
  match skipComment (skipBlanks s) with
  | [] => some []
  | s => newline? s

/-- What follows blanks and line ends. -/
def skipSpace : Text → Text
  | ' ' :: s | '\t' :: s | '\n' :: s | '\r' :: '\n' :: s => skipSpace s
  | s => s

/-- What follows blanks, comments and line ends, if each comment ends with its line. The flag says
whether the text starts within a comment. -/
def skipTrivia? : (inComment : Bool) → Text → Option Text
  | false, ' ' :: s | false, '\t' :: s | false, '\n' :: s | false, '\r' :: '\n' :: s
  | true, '\n' :: s | true, '\r' :: '\n' :: s => skipTrivia? false s
  | false, '#' :: s => skipTrivia? true s
  | false, s => some s
  | true, c :: s => if isPlain c then skipTrivia? true s else none
  | true, [] => none

/-! ## Repetition -/

/-- Reads pieces of text up to an end that gives the last piece. The bound is on the number of
pieces. -/
def readUntil (stop piece : Reader Text) : (bound : Nat) → Reader Text
  | 0, _ => none
  | bound + 1, s =>
    match stop s with
    | some result => some result
    | none => do
      let (first, s) ← piece s
      let (others, s) ← readUntil stop piece bound s
      return (first ++ others, s)

end Toml

end Scribe
