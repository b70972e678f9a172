import Scribe.Toml.Draft
import Scribe.Toml.Numeral
import Scribe.Toml.Quotation.Read

/-!
# Reading TOML

A document is a sequence of lines: headers, which open a table, and entries, which add a value to the
table that is open. A text that is no document has no value; where it fails is not reported.
-/

namespace Scribe

namespace Toml

/-! ## Keys -/

/-- Reads one key. -/
def simpleKey? : Reader Text
  | '"' :: s => basic? s
  | '\'' :: s => literal? s
  | s => if s.takeWhile isBare = [] then none else some (s.takeWhile isBare, s.dropWhile isBare)

/-- Reads keys with dots between them. The bound is on their number. -/
def dottedKeys? : (bound : Nat) → Reader (List Text)
  | 0, _ => none
  | bound + 1, s => do
    let (key, s) ← simpleKey? (skipBlanks s)
    match skipBlanks s with
    | '.' :: s =>
      let (keys, s) ← dottedKeys? bound s
      return (key :: keys, s)
    | s => return ([key], s)

/-- The most keys that a dotted key can have. -/
def mostKeys : Nat := 79

/-- Reads a dotted key: the keys before the last one, and the last one. -/
def keyPath? : Reader (List Text × Text) := fun s => do
  let (keys, s) ← dottedKeys? mostKeys s
  let last ← keys.getLast?
  return ((keys.dropLast, last), s)

/-! ## Values -/

/-- The most arrays and inline tables that can be nested. -/
def deepestNesting : Nat := 79

/-- Reads the items of an array, after its bracket or a comma. The bound is on their number. -/
def items? (value : Reader Value) : (bound : Nat) → Reader (List Value)
  | 0, _ => none
  | bound + 1, s => do
    match ← skipTrivia? false s with
    | ']' :: s => return ([], s)
    | s =>
      let (v, s) ← value s
      match ← skipTrivia? false s with
      | ',' :: s =>
        let (vs, s) ← items? value bound s
        return (v :: vs, s)
      | ']' :: s => return ([v], s)
      | _ => none

/-- Reads a key, an equals sign and a value. -/
def entry? (value : Reader Value) : Reader (List Text × Text × Value) := fun s => do
  let ((path, key), s) ← keyPath? s
  match s with
  | '=' :: s =>
    let (v, s) ← value (skipBlanks s)
    return ((path, key, v), s)
  | _ => none

/-- Reads the entries of an inline table, after its brace or a comma, and adds them to those before.
The bound is on their number. -/
def inlineEntries? (value : Reader Value) : (bound : Nat) → Entries → Reader Entries
  | 0, _, _ => none
  | bound + 1, entries, s => do
    let ((path, key, v), s) ← entry? value s
    let entries ← entries.insert? key v path
    match skipBlanks s with
    | ',' :: s => inlineEntries? value bound entries s
    | '\x7d' :: s => return (entries, s)
    | _ => none

/-- Reads an inline table, after its brace. -/
def inlineTable? (value : Reader Value) : Reader Value := fun s => do
  match skipBlanks s with
  | '\x7d' :: s => return (.table [], s)
  | s =>
    let (entries, s) ← inlineEntries? value (s.length + 1) [] s
    return (.table (entryValues entries), s)

/-- Reads a value that holds no other. -/
def scalar? : Reader Value
  | 't' :: 'r' :: 'u' :: 'e' :: s => some (.boolean true, s)
  | 'f' :: 'a' :: 'l' :: 's' :: 'e' :: s => some (.boolean false, s)
  | '"' :: s => (string? ('"' :: s)).map fun (t, s) => (.string t, s)
  | '\'' :: s => (string? ('\'' :: s)).map fun (t, s) => (.string t, s)
  | s => number? s

/-- Reads a value in which arrays and inline tables are nested up to a depth. -/
def value? : (depth : Nat) → Reader Value
  | depth + 1, '[' :: s => do
    let (vs, s) ← items? (value? depth) (s.length + 1) s
    return (.array vs, s)
  | depth + 1, '\x7b' :: s => inlineTable? (value? depth) s
  | _, s => scalar? s

/-! ## Documents -/

/-- What has been read of a document, and the table that is open. -/
structure Progress where
  entries : Entries := []
  path : List Text := []

/-- Reads the keys of a header up to what closes it, and the rest of its line. -/
def header? (closing : Text) : Reader (List Text × Text) := fun s => do
  let (path, s) ← keyPath? s
  guard (closing.isPrefixOf s)
  return (path, ← endLine? (s.drop closing.length))

/-- Reads one line that holds something, after its blanks. -/
def line? (p : Progress) : Reader Progress
  | '[' :: '[' :: s => do
    let ((path, key), s) ← header? "]]".toList s
    return ({ entries := ← p.entries.openElement? path key, path := path ++ [key] }, s)
  | '[' :: s => do
    let ((path, key), s) ← header? "]".toList s
    return ({ entries := ← p.entries.openTable? path key, path := path ++ [key] }, s)
  | s => do
    let ((path, key, v), s) ← entry? (value? deepestNesting) s
    let entries ← p.entries.within? (Entries.insert? key v path) p.path
    return ({ p with entries }, ← endLine? s)

/-- Reads lines up to the end of the text. The bound is on their number. -/
def lines? : (bound : Nat) → Progress → Text → Option Progress
  | 0, _, _ => none
  | bound + 1, p, s =>
    match skipBlanks s with
    | [] => some p
    | '\n' :: s | '\r' :: '\n' :: s => lines? bound p s
    | '#' :: s => do lines? bound p (← endLine? ('#' :: s))
    | s => do
      let (p, s) ← line? p s
      lines? bound p s

/-- What follows the mark of the byte order, if the text starts with one. -/
def dropByteOrderMark : Text → Text
  | '\uFEFF' :: s => s
  | s => s

/-- The table that a document denotes. -/
def document? (s : Text) : Option (List (Text × Value)) :=
  (lines? (s.length + 1) {} (dropByteOrderMark s)).map fun p => entryValues p.entries

end Toml

end Scribe
