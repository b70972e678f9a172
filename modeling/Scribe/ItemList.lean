import Scribe.Text.Lines

/-!
# Lists of items

Items are joined by a separator, and by a line feed after it if they go on lines of their own. There
is nothing before the first item and nothing after the last.
-/

namespace Scribe

/-- How the items of a list are joined. -/
structure ListLayout where
  separator : Text := []
  separateLines : Bool := true
deriving DecidableEq

namespace ListLayout

/-- What stands between two items. -/
def joiner (l : ListLayout) : Text := l.separator ++ if l.separateLines then ['\n'] else []

/-- The items, joined. -/
def join (l : ListLayout) (items : List Text) : Text := l.joiner.intercalate items

@[simp] theorem join_nil (l : ListLayout) : l.join [] = [] := rfl

@[simp] theorem join_singleton (l : ListLayout) (item : Text) : l.join [item] = item :=
  List.intercalate_singleton

/-- Without further choices each item gets a line. -/
theorem join_default (items : List Text) : join {} items = Text.unlines items := rfl

end ListLayout

end Scribe
