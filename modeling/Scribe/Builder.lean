import Scribe.Text.Lines

/-!
# Builders

A builder collects entries in order; the text that it builds has them on lines of their own, with no
line feed before the first or after the last.
-/

namespace Scribe

/-- Entries, collected in order. -/
structure Builder where
  entries : List Text
deriving DecidableEq

namespace Builder

/-- The builder without entries. -/
def empty : Builder := ⟨[]⟩

/-- Adds one entry at the end. -/
def push (b : Builder) (entry : Text) : Builder := ⟨b.entries ++ [entry]⟩

/-- Adds each text of a list as an entry of its own. -/
def extend (b : Builder) (entries : List Text) : Builder := ⟨b.entries ++ entries⟩

/-- Adds an entry for each item of a list. -/
def withEach {α : Type} (b : Builder) (items : List α) (entry : α → Text) : Builder :=
  b.extend (items.map entry)

/-- The number of entries. -/
def size (b : Builder) : Nat := b.entries.length

/-- Whether there are no entries. -/
def isEmpty (b : Builder) : Bool := b.entries.isEmpty

/-- The entries, joined with line feeds. -/
def build (b : Builder) : Text := Text.unlines b.entries

@[simp] theorem entries_empty : empty.entries = [] := rfl

@[simp] theorem entries_push (b : Builder) (entry : Text) :
    (b.push entry).entries = b.entries ++ [entry] := rfl

@[simp] theorem entries_extend (b : Builder) (entries : List Text) :
    (b.extend entries).entries = b.entries ++ entries := rfl

@[simp] theorem entries_withEach {α : Type} (b : Builder) (items : List α) (entry : α → Text) :
    (b.withEach items entry).entries = b.entries ++ items.map entry := rfl

end Builder

end Scribe
