import Scribe.Builder
import Scribe.Key
import Scribe.Substitution

/-!
# Documents

A document is a text with the name that it is filed under. The name never changes; the contents can
be replaced as a whole, and their keys can be filled. The main facts:

* `withFinalNewline_eq_self_iff`: nothing is added to a text that is empty or ends its last line.
* `name_fill`: filling keeps the name.
-/

namespace Scribe

/-- What is done to contents when a document is made of them. -/
structure DocumentOptions where
  /-- Whether contents that are not empty are made to end in a line feed. -/
  endWithNewline : Bool := true
deriving DecidableEq

/-- A text to be filed under a name. -/
structure Document where
  name : Text
  contents : Text
deriving DecidableEq

/-- A text with a line feed at its end, unless it is empty or has one there already. -/
def Text.withFinalNewline (s : Text) : Text :=
  if s = [] ∨ s.getLast? = some '\n' then s else s ++ ['\n']

theorem Text.withFinalNewline_eq_self_iff {s : Text} :
    s.withFinalNewline = s ↔ s = [] ∨ s.getLast? = some '\n' := by
  unfold Text.withFinalNewline
  split <;> simp_all

namespace Document

/-- Makes a document of a text, and reports it. -/
def compose (name : Text) (options : DocumentOptions) (text : Text) : Traced Document :=
  let contents := if options.endWithNewline then text.withFinalNewline else text
  ⟨{ name, contents }, [.composed name contents.utf8Length]⟩

/-- Makes a document of a builder's text. -/
def build (name : Text) (b : Builder) (options : DocumentOptions := {}) : Traced Document :=
  compose name options b.build

/-- The document with other contents. -/
def setContents (d : Document) (contents : Text) : Document := { d with contents }

/-- The document with a value in each place of a key. -/
def fill (d : Document) (key : Key) (value : Text) : Traced Document :=
  d.setContents <$> ({ token := key.token, value } : Substitution).run d.contents

@[simp] theorem name_setContents (d : Document) (contents : Text) :
    (d.setContents contents).name = d.name := rfl

@[simp] theorem name_fill (d : Document) (key : Key) (value : Text) :
    (d.fill key value).value.name = d.name := rfl

@[simp] theorem contents_fill (d : Document) (key : Key) (value : Text) :
    (d.fill key value).value.contents = ({ token := key.token, value } : Substitution).apply d.contents :=
  rfl

end Document

end Scribe
