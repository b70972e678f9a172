import Scribe.CharacterSet
import Scribe.Document
import Scribe.ItemList

/-!
# Fragments

A fragment is a piece of generated text that may be composed of others. Rendering works through it
once, children from first to last, and reports what happens on the way. The main facts:

* `contents_builder`, `contents_list`, `contents_trim`, …: the text of each kind of fragment is made
  of the texts of its parts.
-/

namespace Scribe

/-- A piece of generated text. -/
inductive Fragment where
  | text (s : Text)
  /-- The place of a key. -/
  | key (k : Key)
  /-- A fragment with fixed text around it. -/
  | surrounded (before : Text) (inner : Fragment) (after : Text)
  /-- Entries on lines of their own. -/
  | builder (entries : List Fragment)
  | list (layout : ListLayout) (items : List Fragment)
  | trim (set : CharacterSet) (inner : Fragment)
  /-- A fragment with a value in each place of a key. -/
  | filled (inner : Fragment) (key : Key) (value : Fragment)
  /-- The contents of a document made of a fragment. -/
  | document (name : Text) (options : DocumentOptions) (inner : Fragment)

namespace Fragment

mutual

/-- The text of a fragment, with the events that composing it reports. -/
def render : Fragment → Traced Text
  | text s => pure s
  | key k => pure k.token
  | surrounded before inner after => do return before ++ (← inner.render) ++ after
  | builder entries => do return (Builder.mk (← renderAll entries)).build
  | list layout items => do return layout.join (← renderAll items)
  | trim set inner => do return set.trim (← inner.render)
  | filled inner k value => do
    let contents ← inner.render
    let value ← value.render
    ({ token := k.token, value } : Substitution).run contents
  | document name options inner => do
    return (← Document.compose name options (← inner.render)).contents

/-- The texts of several fragments, in order. -/
def renderAll : List Fragment → Traced (List Text)
  | [] => pure []
  | f :: fs => do return (← f.render) :: (← renderAll fs)

end

/-- The text of a fragment. -/
def contents (f : Fragment) : Text := f.render.value

theorem value_renderAll (fs : List Fragment) : (renderAll fs).value = fs.map contents := by
  induction fs with
  | nil => rfl
  | cons f fs ih => simp [renderAll, contents, ih]

@[simp] theorem contents_text (s : Text) : (text s).contents = s := by
  simp [contents, render]

@[simp] theorem contents_key (k : Key) : (key k).contents = k.token := by
  simp [contents, render]

@[simp] theorem contents_surrounded (before : Text) (inner : Fragment) (after : Text) :
    (surrounded before inner after).contents = before ++ inner.contents ++ after := by
  simp [contents, render]

@[simp] theorem contents_builder (entries : List Fragment) :
    (builder entries).contents = Text.unlines (entries.map contents) := by
  simp [contents, render, value_renderAll, Builder.build]

@[simp] theorem contents_list (layout : ListLayout) (items : List Fragment) :
    (list layout items).contents = layout.join (items.map contents) := by
  simp [contents, render, value_renderAll]

@[simp] theorem contents_trim (set : CharacterSet) (inner : Fragment) :
    (trim set inner).contents = set.trim inner.contents := by
  simp [contents, render]

@[simp] theorem contents_filled (inner : Fragment) (k : Key) (value : Fragment) :
    (filled inner k value).contents =
      ({ token := k.token, value := value.contents } : Substitution).apply inner.contents := by
  simp [contents, render]

@[simp] theorem contents_document (name : Text) (options : DocumentOptions) (inner : Fragment) :
    (document name options inner).contents =
      (Document.compose name options inner.contents).value.contents := by
  simp [contents, render]

end Fragment

/-- Makes a document of a fragment. -/
def Document.ofFragment (name : Text) (options : DocumentOptions) (f : Fragment) :
    Traced Document := do
  compose name options (← f.render)

end Scribe
