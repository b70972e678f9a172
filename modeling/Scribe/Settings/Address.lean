import Scribe.Settings.Setting

/-!
# Addresses of settings

An address leads from the root of the settings to a value, by names and by positions in arrays. It is
written like `write.mode` or `write[4]`. A text that is no address is a name as it stands.

* `parse?` reads an address, `ofText` any text.
* `set` puts a value at an address; what is missing or of the wrong kind on the way is replaced.
-/

namespace Scribe

namespace Settings

/-- The way to a value. -/
inductive Address where
  | name (n : Text)
  | child (parent : Address) (n : Text)
  /-- A position in an array, from its end if it is negative. -/
  | item (parent : Address) (index : Int)
deriving DecidableEq

namespace Address

/-! ## Reading -/

/-- A character of a name in an address. -/
def isNameChar (c : Char) : Bool := c.isAlphanum || c = ' ' || c = '_' || c = '-'

/-- Reads a position, after its bracket. -/
def position? (s : Text) : Option (Int × Text) := do
  let isBlank (c : Char) : Bool := c = ' ' || c = '\t'
  let s := s.dropWhile isBlank
  let (negative, s) := match s with
    | '-' :: s => (true, s)
    | s => (false, s)
  let n ← Text.natural? (s.takeWhile Char.isDigit)
  let n : Int := if negative then -n else n
  guard (-0x8000000000000000 ≤ n ∧ n < 0x8000000000000000)
  match (s.dropWhile Char.isDigit).dropWhile isBlank with
  | ']' :: s => return (n, s)
  | _ => none

/-- Reads the rest of an address. The bound is on the number of its steps. -/
def steps? : (bound : Nat) → Address → Text → Option Address
  | _, a, [] => some a
  | bound + 1, a, '.' :: s =>
    let n := s.takeWhile isNameChar
    if n = [] then none else steps? bound (.child a n) (s.dropWhile isNameChar)
  | bound + 1, a, '[' :: s => do
    let (index, s) ← position? s
    steps? bound (.item a index) s
  | _, _, _ => none

/-- The address that a text denotes. -/
def parse? (s : Text) : Option Address :=
  let n := s.takeWhile isNameChar
  if n = [] then none else steps? s.length (.name n) (s.dropWhile isNameChar)

/-- The address that a text denotes, or else the text as a name. -/
def ofText (s : Text) : Address := (parse? s).getD (.name s)

/-! ## Changing -/

/-- The position in an array of this length. -/
def resolve (index : Int) (length : Nat) : Nat :=
  if 0 ≤ index then index.toNat else length - index.natAbs

/-- Changes the item at a position; items that are missing before it are not given. -/
def changeItem (change : Setting → Setting) (index : Int) (items : List Setting) : List Setting :=
  let i := resolve index items.length
  (items.rightpad (i + 1) Setting.absent).modify i change

/-- Changes the entry at a name, in lower case, of a table, which has none if it was not given. -/
def changeEntry (change : Setting → Setting) (n : Text) (root : Setting) : Setting :=
  root.withEntries (root.entries.put n.lower (change ((root.entries.get? n.lower).getD .absent)))

/-- Changes what stands at an address. What is missing on the way is made, and what is of the wrong
kind is replaced. -/
def change : Address → (Setting → Setting) → Setting → Setting
  | name n, f, root => changeEntry f n root
  | child parent n, f, root => parent.change (fun s => changeEntry f n s.asTable) root
  | item parent index, f, root =>
    parent.change (fun s => s.withItems (changeItem f index s.items)) root

/-- Puts a value at an address. -/
def set (value : Setting) : Address → Setting → Setting
  | name n, root => value.setName n root
  | child parent n, root => parent.change (value.setName n) root
  | item parent index, root => (item parent index).change (fun _ => value) root

end Address

/-- Puts values at the addresses that their names denote, one after the other. Where names meet at one
address, the later value is put over the earlier one. Here the values of a file come in the order of its
text. This is a choice: a table as such has no order, and values that meet could be put in any. -/
def layer (values : List (Text × Setting)) (root : Setting) : Setting :=
  values.foldl (fun root (name, value) => (Address.ofText name).set value root) root

end Settings

end Scribe
