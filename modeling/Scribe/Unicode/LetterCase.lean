import Scribe.Text.Lines
import Scribe.Unicode.CaseTable

/-!
# Letter case

The full case mappings of text: a character may become several, and a capital sigma at the end of a
word has a lower case of its own.
-/

namespace Scribe

namespace Unicode

/-- The code point to which one of the runs sends `n`, or `n` itself. -/
def imageUnder (runs : List CaseRun) (n : Nat) : Nat := (runs.findSome? (·.image? n)).getD n

/-- The upper case of a character. -/
def upperChar (c : Char) : Text :=
  match upperExpansions.lookup c.toNat with
  | some expansion => expansion.map Char.ofNat
  | none => [Char.ofNat (imageUnder upperRuns c.toNat)]

/-- The lower case of a character, wherever it stands; only the dotted capital I becomes two. -/
def lowerChar (c : Char) : Text :=
  if c = '\u0130' then ['i', '\u0307'] else [Char.ofNat (imageUnder lowerRuns c.toNat)]

end Unicode

namespace Text

/-- The upper case of a text. -/
def upper (s : Text) : Text := s.flatMap Unicode.upperChar

@[simp] theorem upper_nil : upper [] = [] := rfl

@[simp] theorem upper_cons (c : Char) (s : Text) : upper (c :: s) = Unicode.upperChar c ++ upper s :=
  rfl

/-- Whether the first character that is not passed over has a case. -/
def startsCased (s : Text) : Bool :=
  match s.dropWhile Unicode.caseIgnorable.contains with
  | [] => false
  | c :: _ => Unicode.cased.contains c

/-- The lower case of a text that follows `before`, of which the last character comes first. -/
def lowerAfter (before : Text) : Text → Text
  | [] => []
  | c :: s =>
    (if c = 'Σ' then [if startsCased before && !startsCased s then 'ς' else 'σ']
      else Unicode.lowerChar c) ++ lowerAfter (c :: before) s

/-- The lower case of a text. A capital sigma is final if it ends a word of more letters. -/
def lower (s : Text) : Text := lowerAfter [] s

end Text

end Scribe
