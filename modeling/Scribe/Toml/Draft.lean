import Scribe.Toml.Value

/-!
# Drafts of tables

While a document is read its tables are open: later lines may add to them. What may be added depends
on how a table came about, by a header of its own, by the header of a table within it, or by a
dotted key. Everything that would define a key or a table twice is refused.

* `insert?` adds a value at a dotted key to the table that is open.
* `openTable?` and `openElement?` do what the two kinds of header ask for.
* `values` closes all tables.
-/

namespace Scribe

namespace Toml

/-- How a table came about. -/
inductive TableOrigin where
  /-- By a header of its own. -/
  | header
  /-- By the header of a table within it. -/
  | nested
  /-- By a dotted key. -/
  | dotted
deriving DecidableEq

/-- What stands at a key while a document is read. -/
inductive Draft where
  | value (v : Value)
  | table (origin : TableOrigin) (entries : List (Text × Draft))
  /-- An array of tables, each with a header; only the last one is open. -/
  | elements (closed : List (List (Text × Draft))) (last : List (Text × Draft))

/-- The entries of an open table. -/
abbrev Entries := List (Text × Draft)

namespace Entries

/-- Changes what stands at a key, or puts something there, unless that is refused. -/
def alter? (key : Text) (change : Option Draft → Option Draft) : Entries → Option Entries
  | [] => (change none).map fun draft => [(key, draft)]
  | (k, draft) :: rest =>
    if k = key then (change (some draft)).map fun draft => (k, draft) :: rest
    else (alter? key change rest).map fun rest => (k, draft) :: rest

/-- A key that is free gets a value. -/
def put? (key : Text) (v : Value) (entries : Entries) : Option Entries :=
  entries.alter? key fun
    | none => some (.value v)
    | some _ => none

/-- Adds a value at a dotted key. The tables on the way must have come about by dotted keys, or come
about by this one; the last of them may not be there for another reason. -/
def insert? (key : Text) (v : Value) : (path : List Text) → Entries → Option Entries
  | [], entries => entries.put? key v
  | name :: path, entries =>
    entries.alter? name fun
      | none => (insert? key v path []).map (.table .dotted)
      | some (.value _) | some (.table .header _) => none
      | some (.table .nested inner) =>
        if path = [] then none else (insert? key v path inner).map (.table .nested)
      | some (.table .dotted inner) => (insert? key v path inner).map (.table .dotted)
      | some (.elements closed last) =>
        if path = [] then none else (insert? key v path last).map (.elements closed)

/-- Changes the table that a path of keys leads to, in arrays of tables the last one; tables that are
missing come about. -/
def within? (change : Entries → Option Entries) : (path : List Text) → Entries → Option Entries
  | [], entries => change entries
  | name :: path, entries =>
    entries.alter? name fun
      | none => (within? change path []).map (.table .nested)
      | some (.value _) => none
      | some (.table origin inner) => (within? change path inner).map (.table origin)
      | some (.elements closed last) => (within? change path last).map (.elements closed)

/-- Makes room for a table that has a header. There may be one only if it came about by the headers
of tables within it. -/
def openTable? (path : List Text) (key : Text) : Entries → Option Entries :=
  within? (alter? key fun
    | none => some (.table .header [])
    | some (.table .nested inner) => some (.table .header inner)
    | some _ => none) path

/-- Adds a table to an array of tables. -/
def openElement? (path : List Text) (key : Text) : Entries → Option Entries :=
  within? (alter? key fun
    | none => some (.elements [] [])
    | some (.elements closed last) => some (.elements (closed ++ [last]) [])
    | some _ => none) path

end Entries

/-! ## Closing -/

mutual

/-- The value of a draft. -/
def Draft.toValue : Draft → Value
  | .value v => v
  | .table _ entries => .table (entryValues entries)
  | .elements closed last => .array (elementValues closed ++ [.table (entryValues last)])

/-- The values of the entries of a table. -/
def entryValues : List (Text × Draft) → List (Text × Value)
  | [] => []
  | (key, draft) :: rest => (key, draft.toValue) :: entryValues rest

/-- The values of the tables of an array. -/
def elementValues : List (List (Text × Draft)) → List Value
  | [] => []
  | entries :: rest => .table (entryValues entries) :: elementValues rest

end

end Toml

end Scribe
