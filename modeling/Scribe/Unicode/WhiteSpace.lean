import Scribe.Unicode.CodeRanges

/-!
# White space and line breaks

The characters of property White_Space. Those that break a line are among them:
`isWhiteSpace_of_isLineBreak`.
-/

namespace Scribe

namespace Unicode

/-- The ranges of property White_Space. -/
def whiteSpace : CodeRanges :=
  [(0x0009, 0x000D), (0x0020, 0x0020), (0x0085, 0x0085), (0x00A0, 0x00A0), (0x1680, 0x1680),
   (0x2000, 0x200A), (0x2028, 0x2029), (0x202F, 0x202F), (0x205F, 0x205F), (0x3000, 0x3000)]

/-- Line feed to carriage return, next line, line separator and paragraph separator. -/
def lineBreaks : CodeRanges := [(0x000A, 0x000D), (0x0085, 0x0085), (0x2028, 0x2029)]

/-- Whether a character is white space. -/
def isWhiteSpace (c : Char) : Bool := whiteSpace.contains c

/-- Whether a character breaks a line. -/
def isLineBreak (c : Char) : Bool := lineBreaks.contains c

theorem isLineBreak_newline : isLineBreak '\n' := by decide

/-- A character that breaks a line is white space. -/
theorem isWhiteSpace_of_isLineBreak {c : Char} (h : isLineBreak c) : isWhiteSpace c := by
  simp only [isLineBreak, isWhiteSpace, CodeRanges.contains_iff] at h ⊢
  simp only [lineBreaks, whiteSpace, List.mem_cons, List.not_mem_nil, or_false,
    exists_eq_or_imp, exists_eq_left] at h ⊢
  omega

end Unicode

end Scribe
