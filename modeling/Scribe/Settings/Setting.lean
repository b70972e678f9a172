import Scribe.Number.Binary64
import Scribe.Unicode.LetterCase

/-!
# Settings

Settings are a tree of values from several sources. A value that was given as such keeps where it
came from; a table that was put together from several sources comes from nowhere in particular. The
names in a table are lower case.

* `Setting.setName` puts a value at a name; tables are merged, anything else is replaced.
* `get?_entries_setName_of_ne`: only the entry at that name changes.
-/

namespace Scribe

namespace Settings

/-- A simple value. -/
inductive Scalar where
  /-- The value of an item that was not given. -/
  | absent
  | boolean (b : Bool)
  | integer (n : Int)
  | float (x : Binary64)
  | string (s : Text)
deriving DecidableEq

/-- A value of the settings, with its origin, if it has one. -/
inductive Setting where
  | scalar (origin : Option Text) (value : Scalar)
  | array (origin : Option Text) (items : List Setting)
  | table (origin : Option Text) (entries : List (Text × Setting))

/-- The entries of a table. -/
abbrev Entries := List (Text × Setting)

namespace Setting

/-- The value of an item that was not given. -/
def absent : Setting := scalar none .absent

/-- A table without entries that was not given as such. -/
def emptyTable : Setting := table none []

/-- The entries of a table; anything else has none. -/
def entries : Setting → Entries
  | table _ es => es
  | _ => []

/-- The items of an array; anything else has none. -/
def items : Setting → List Setting
  | array _ items => items
  | _ => []

/-- A table as it is; an empty table in the place of anything else. -/
def asTable : Setting → Setting
  | table origin es => table origin es
  | _ => emptyTable

/-- The table with other entries. -/
def withEntries (s : Setting) (es : Entries) : Setting :=
  match s with
  | table origin _ => table origin es
  | _ => table none es

/-- The array with other items. -/
def withItems (s : Setting) (items : List Setting) : Setting :=
  match s with
  | array origin _ => array origin items
  | _ => array none items

@[simp] theorem entries_asTable (s : Setting) : s.asTable.entries = s.entries := by
  cases s <;> rfl

@[simp] theorem entries_withEntries (s : Setting) (es : Entries) : (s.withEntries es).entries = es := by
  cases s <;> rfl

end Setting

namespace Entries

/-- What stands at a name. -/
def get? (name : Text) : Entries → Option Setting
  | [] => none
  | (n, s) :: es => if n = name then some s else get? name es

/-- Puts something at a name, in the place of what is there. -/
def put (name : Text) (s : Setting) : Entries → Entries
  | [] => [(name, s)]
  | (n, old) :: es => if n = name then (name, s) :: es else (n, old) :: put name s es

@[simp] theorem get?_put_self (name : Text) (s : Setting) (es : Entries) :
    (es.put name s).get? name = some s := by
  induction es with
  | nil => simp [put, get?]
  | cons e es ih => by_cases h : e.1 = name <;> simp [put, get?, h, ih]

theorem get?_put_of_ne {name other : Text} (h : name ≠ other) (s : Setting) (es : Entries) :
    (es.put name s).get? other = es.get? other := by
  induction es with
  | nil => simp [put, get?, h]
  | cons e es ih => by_cases he : e.1 = name <;> simp [put, get?, he, h, ih]

end Entries

/-! ## Merging -/

mutual

/-- Puts a value at a name, in lower case, of a table; anything but a table becomes one. A table is
merged into what stands there, name by name, and so does not replace it unless it has entries. -/
def Setting.setName (name : Text) : (value : Setting) → (root : Setting) → Setting
  | .table _ es, root =>
    let target := (root.asTable.entries.get? name.lower).getD .emptyTable
    root.asTable.withEntries (root.asTable.entries.put name.lower (Setting.mergeEntries es target))
  | value, root =>
    root.asTable.withEntries (root.asTable.entries.put name.lower value)

/-- Puts values at their names, one after the other. -/
def Setting.mergeEntries : List (Text × Setting) → (root : Setting) → Setting
  | [], root => root
  | (name, value) :: rest, root => Setting.mergeEntries rest (Setting.setName name value root)

end

theorem Setting.get?_entries_setName_of_ne {name other : Text} (h : name.lower ≠ other)
    (value root : Setting) : (value.setName name root).entries.get? other = root.entries.get? other := by
  cases value <;> simp [setName, Entries.get?_put_of_ne h]

end Settings

end Scribe
