import Scribe.Text.Lines
import Scribe.Unicode.Visible

/-!
# Quoted text

The form in which a message quotes a text: between double quotes, with a backslash before quotes
and backslashes, short escapes for the usual controls, and the code point of whatever else would not
show by itself.
-/

namespace Scribe

namespace Text

/-- A character as it stands between quotes. -/
def quoteChar (c : Char) : Text :=
  match c with
  | '\x00' => "\\0".toList
  | '\t' => "\\t".toList
  | '\r' => "\\r".toList
  | '\n' => "\\n".toList
  | '\\' => "\\\\".toList
  | '"' => "\\\"".toList
  | c =>
    if Unicode.isVisible c then [c]
    else "\\u\x7b".toList ++ Nat.toDigits 16 c.toNat ++ "\x7d".toList

/-- A text between double quotes. -/
def quoted (s : Text) : Text := '"' :: s.flatMap quoteChar ++ ['"']

end Text

end Scribe
