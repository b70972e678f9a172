import Scribe.Settings.Setting
import Scribe.Text.Quoted
import Scribe.Text.Truth

/-!
# Conversion of settings

A setting is converted to the type that is wanted of it. Simple values stand for each other where that
makes sense: numbers for truth values, words for switches, any simple value for its text. What cannot
be converted is refused with what it is, what was expected and where it comes from.

* `toBool`, `toUInt32`, `toText` and `optional` convert single values.
* `Record` finds the fields of a record, by their names in a table or by their positions in an array.
-/

namespace Scribe

namespace Settings

/-! ## Refusals -/

/-- What a refused value is. -/
inductive Found where
  | scalar (value : Scalar)
  /-- A number that was converted as far as this. -/
  | natural (n : Nat)
  | array
  | table
deriving DecidableEq

/-- What a value was expected to be. -/
inductive Expected where
  | boolean
  | integer
  | unsigned64
  | unsigned32
  | string
deriving DecidableEq

/-- A value that is not what was expected. -/
structure Mismatch where
  found : Found
  expected : Expected
  origin : Option Text
deriving DecidableEq

/-- Why settings could not be converted. -/
inductive ConversionError where
  | mismatch (key : Text) (m : Mismatch)
  /-- A simple value stands in the place of a record of this type. -/
  | notRecord (type : Text) (value : Scalar)
deriving DecidableEq

/-- A text between backticks. -/
def ticked (s : Text) : Text := '\x60' :: s ++ ['\x60']

/-- A number with a point, if it is finite. -/
def withPoint (x : Binary64) : Text :=
  if x.isFinite && !x.text.contains '.' then x.text ++ ".0".toList else x.text

/-- The words for a simple value. -/
def Scalar.description : Scalar → Text
  | absent => "unit value".toList
  | boolean b => "boolean ".toList ++ ticked (Text.ofBool b)
  | integer n => "integer ".toList ++ ticked (Text.ofInt n)
  | float x => "floating point ".toList ++ ticked (withPoint x)
  | string s => "string ".toList ++ Text.quoted s

/-- The words for a refused value. Numbers are called by their width. -/
def Found.description : Found → Text
  | scalar (.integer n) => "64-bit integer ".toList ++ ticked (Text.ofInt n)
  | scalar value => value.description
  | natural n => "64-bit unsigned integer ".toList ++ ticked (Text.ofNat n)
  | array => "sequence".toList
  | table => "map".toList

/-- The words for what was expected. -/
def Expected.description : Expected → Text
  | boolean => "a boolean".toList
  | integer => "an integer".toList
  | unsigned64 => "an unsigned 64 bit or less integer".toList
  | unsigned32 => "an unsigned 32 bit integer".toList
  | string => "a string".toList

/-- The words for where a value comes from. -/
def originText : Option Text → Text
  | some origin => " in ".toList ++ origin
  | none => []

/-- The text that says what is wrong. -/
def ConversionError.message : ConversionError → Text
  | mismatch key m =>
    "invalid type: ".toList ++ m.found.description ++ ", expected ".toList ++
      m.expected.description ++ " for key ".toList ++ ticked key ++ originText m.origin
  | notRecord type value =>
    "invalid type: ".toList ++ value.description ++ ", expected struct ".toList ++ type

namespace Setting

/-- The refusal of a setting as it stands. -/
def refusal (expected : Expected) : Setting → Mismatch
  | scalar origin value => { found := .scalar value, expected, origin }
  | array origin _ => { found := .array, expected, origin }
  | table origin _ => { found := .table, expected, origin }

/-! ## Simple values -/

/-- The truth value that a word in lower case stands for. -/
def switch? (word : Text) : Option Bool :=
  if word ∈ ["1", "true", "on", "yes"].map String.toList then some true
  else if word ∈ ["0", "false", "off", "no"].map String.toList then some false
  else none

/-- A setting as a truth value; a number is true unless it is zero. -/
def toBool : Setting → Except Mismatch Bool
  | scalar _ (.boolean b) => .ok b
  | scalar _ (.integer n) => .ok (n ≠ 0)
  | scalar _ (.float x) => .ok !x.isZero
  | scalar origin (.string s) =>
    match switch? s.lower with
    | some b => .ok b
    | none => .error (refusal .boolean (scalar origin (.string s.lower)))
  | s => .error (s.refusal .boolean)

/-- The largest number of 64 bits. -/
def largestNatural : Nat := 0xFFFFFFFFFFFFFFFF

/-- The number that a text stands for: a word for a switch, or a numeral. -/
def numeral? (s : Text) : Option Nat :=
  match switch? s.lower with
  | some b => some b.toNat
  | none => (Text.unsigned? s).filter (· ≤ largestNatural)

/-- A setting as a number of up to 64 bits; fractions are rounded. -/
def toNatural : Setting → Except Mismatch Nat
  | scalar _ (.boolean b) => .ok b.toNat
  | scalar origin (.integer n) =>
    if 0 ≤ n then .ok n.toNat else .error (refusal .unsigned64 (scalar origin (.integer n)))
  | scalar _ (.float x) => .ok (x.toNatWithin largestNatural)
  | scalar origin (.string s) =>
    match numeral? s with
    | some n => .ok n
    | none => .error (refusal .integer (scalar origin (.string s)))
  | s => .error (s.refusal .integer)

/-- A setting as a number of 32 bits. The refusal of a larger number does not say where it comes
from. -/
def toUInt32 (s : Setting) : Except Mismatch UInt32 := do
  let n ← s.toNatural
  if n < 0x100000000 then return UInt32.ofNat n
  else throw { found := .natural n, expected := .unsigned32, origin := none }

/-- A setting as a text. -/
def toText : Setting → Except Mismatch Text
  | scalar _ (.boolean b) => .ok (Text.ofBool b)
  | scalar _ (.integer n) => .ok (Text.ofInt n)
  | scalar _ (.float x) => .ok x.text
  | scalar _ (.string s) => .ok s
  | s => .error (s.refusal .string)

/-- A setting that may also be absent. -/
def optional {α : Type} (convert : Setting → Except Mismatch α) :
    Setting → Except Mismatch (Option α)
  | scalar _ .absent => .ok none
  | s => some <$> convert s

end Setting

/-! ## Records -/

/-- The fields that a setting gives for the record at a key. -/
inductive Record where
  /-- Fields by name. -/
  | named (key : Text) (entries : Entries)
  /-- Fields in the order of their declaration. -/
  | listed (key : Text) (items : List Setting)

namespace Record

/-- The fields that a setting at a key gives for a record of a type. -/
def ofSetting (key type : Text) : Setting → Except ConversionError Record
  | .scalar _ value => .error (.notRecord type value)
  | .array _ items => .ok (listed key items)
  | .table _ entries => .ok (named key entries)

/-- What is given for a field, which has a position and a name. -/
def get? (position : Nat) (name : Text) : Record → Option Setting
  | .named _ entries => entries.get? name
  | .listed _ items => items[position]?

/-- What messages call a field. -/
def keyOf (position : Nat) (name : Text) : Record → Text
  | named key _ => key ++ '.' :: name
  | listed key _ => key ++ '[' :: Text.ofNat position ++ [']']

/-- The value of a field: what is given for it, converted, or else its default. -/
def field {α : Type} (r : Record) (position : Nat) (name : Text) (default : α)
    (convert : Setting → Except Mismatch α) : Except ConversionError α :=
  match r.get? position name with
  | none => .ok default
  | some s => (convert s).mapError (.mismatch (r.keyOf position name))

end Record

end Settings

end Scribe
