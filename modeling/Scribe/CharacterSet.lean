import Scribe.Text.Lines
import Scribe.Unicode.DecimalDigit
import Scribe.Unicode.WhiteSpace

/-!
# Character sets and trimming

Trimming removes the longest runs of a set's members from the two ends of a text and nothing from
its interior. The largest of the sets of blanks is the union of the others:
`contains_whiteSpaceAndLineBreaks`.
-/

namespace Scribe

/-- A set of characters to trim. -/
inductive CharacterSet where
  | lineBreaks
  /-- White space that breaks no line. -/
  | whiteSpace
  | whiteSpaceAndLineBreaks
  | decimalDigits
  /-- The characters of a list. -/
  | characters (members : Text)
deriving DecidableEq

namespace CharacterSet

/-- Whether a character belongs to the set. -/
def contains (set : CharacterSet) (c : Char) : Bool :=
  match set with
  | lineBreaks => Unicode.isLineBreak c
  | whiteSpace => Unicode.isWhiteSpace c && !Unicode.isLineBreak c
  | whiteSpaceAndLineBreaks => Unicode.isWhiteSpace c || Unicode.isLineBreak c
  | decimalDigits => Unicode.isDecimalDigit c
  | characters members => members.contains c

theorem contains_whiteSpaceAndLineBreaks (c : Char) :
    whiteSpaceAndLineBreaks.contains c = (whiteSpace.contains c || lineBreaks.contains c) := by
  simp only [contains]
  cases Unicode.isWhiteSpace c <;> cases Unicode.isLineBreak c <;> rfl

/-! ## Trimming -/

/-- A text without the run of members at its start. -/
def trimStart (set : CharacterSet) (s : Text) : Text := s.dropWhile set.contains

/-- A text without the run of members at its end. -/
def trimEnd (set : CharacterSet) (s : Text) : Text := (s.reverse.dropWhile set.contains).reverse

/-- A text without the runs of members at its ends. -/
def trim (set : CharacterSet) (s : Text) : Text := set.trimEnd (set.trimStart s)

/-! ## The members of a range -/

/-- Adds a member below those of a list of runs, to the first run if it is next to it. -/
def addBelow (n : Nat) : List (Nat × Nat) → List (Nat × Nat)
  | [] => [(n, n)]
  | (first, last) :: runs =>
    if n + 1 = first then (n, last) :: runs else (n, n) :: (first, last) :: runs

/-- The runs of members among the `count` code points from `low` on, before `runs`. -/
def runsFrom (set : CharacterSet) (low : Nat) : (count : Nat) → (runs : List (Nat × Nat)) →
    List (Nat × Nat)
  | 0, runs => runs
  | count + 1, runs =>
    let n := low + count
    set.runsFrom low count
      (if n.isValidChar ∧ set.contains (Char.ofNat n) then addBelow n runs else runs)

/-- The maximal runs of members among the code points from `low` to `high`, in ascending order. -/
def runs (set : CharacterSet) (low high : Nat) : List (Nat × Nat) :=
  set.runsFrom low (high + 1 - low) []

end CharacterSet

end Scribe
