import Scribe.Text.Numeral
import Scribe.Text.Truth
import Scribe.Toml.Quotation.Write
import Scribe.Toml.Value

/-!
# Writing TOML

A document of sections: each is a table under a header, with simple values, one on a line. There is
an empty line between two sections.
-/

namespace Scribe

namespace Toml

/-- A simple value. -/
inductive Scalar where
  | boolean (b : Bool)
  | integer (n : Int)
  | string (s : Text)
deriving DecidableEq

namespace Scalar

/-- The simple value as a value. -/
def toValue : Scalar → Value
  | boolean b => .boolean b
  | integer n => .integer n
  | string s => .string s

/-- The text of a simple value. -/
def text : Scalar → Text
  | boolean b => Text.ofBool b
  | integer n => Text.ofInt n
  | string s => quote s

end Scalar

/-- A table under a header of one key. The keys need no quotes. -/
structure Section where
  name : Text
  entries : List (Text × Scalar)

/-- A key and its value, on a line. -/
def entryText (entry : Text × Scalar) : Text := entry.1 ++ " = ".toList ++ entry.2.text ++ ['\n']

/-- A section, header first. -/
def Section.text (s : Section) : Text :=
  '[' :: s.name ++ "]\n".toList ++ s.entries.flatMap entryText

/-- A document of sections. -/
def documentText (sections : List Section) : Text := ['\n'].intercalate (sections.map Section.text)

end Toml

end Scribe
