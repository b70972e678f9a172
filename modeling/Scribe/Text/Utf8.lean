import Scribe.Text.Lines

/-!
# Text in bytes

Files hold bytes; text is written to them in UTF-8. The main facts:

* `ofUtf8?_utf8`: the text that was written can be read again.
* `length_utf8`: the number of bytes is the sum of the characters' sizes.
-/

namespace Scribe

/-- The contents of a file. -/
abbrev Bytes := List UInt8

namespace Text

/-- The bytes of a text in UTF-8. -/
def utf8 (s : Text) : Bytes := s.flatMap String.utf8EncodeChar

/-- The text that bytes hold, if they are valid UTF-8. -/
def ofUtf8? (bytes : Bytes) : Option Text := bytes.toByteArray.utf8Decode?.map Array.toList

@[simp] theorem ofUtf8?_utf8 (s : Text) : ofUtf8? s.utf8 = some s := by
  have : (utf8 s).toByteArray = List.utf8Encode s := rfl
  rw [ofUtf8?, this, List.utf8Decode?_utf8Encode, Option.map_some]

@[simp] theorem length_utf8 (s : Text) : s.utf8.length = s.utf8Length := by
  induction s with
  | nil => rfl
  | cons c s ih =>
    rw [utf8] at ih
    rw [utf8, utf8Length, List.flatMap_cons, List.length_append, ih, String.length_utf8EncodeChar]

end Text

end Scribe
