import Scribe.Settings.Setting
import Scribe.Text.Occurrence
import Scribe.Text.Truth
import Scribe.Toml.Value

/-!
# Sources of settings

Settings are given by a file and by the variables of the environment. A source is a list of names
with values; the names are texts that may be addresses.

* `ofTable` gives the settings of a table that a file holds.
* `ofEnvironment` gives those of the variables whose names start with a given text.
* `settingName?_eq_none_iff`: no other variable counts.
-/

namespace Scribe

namespace Settings

/-! ## Files -/

mutual

/-- A value of a file as a setting. A date or time is given as its text. -/
def ofValue (origin : Text) : Toml.Value → Setting
  | .string s => .scalar origin (.string s)
  | .integer n => .scalar origin (.integer n)
  | .float x => .scalar origin (.float x)
  | .boolean b => .scalar origin (.boolean b)
  | .dateTime d => .scalar origin (.string d.text)
  | .array items => .array origin (ofValues origin items)
  | .table entries => .table origin (ofTable origin entries)

/-- Values of a file as settings. -/
def ofValues (origin : Text) : List Toml.Value → List Setting
  | [] => []
  | v :: vs => ofValue origin v :: ofValues origin vs

/-- The entries of a table in a file as settings. -/
def ofTable (origin : Text) : List (Text × Toml.Value) → Entries
  | [] => []
  | (name, v) :: entries => (name, ofValue origin v) :: ofTable origin entries

end

/-! ## The environment -/

/-- Variables with their values. -/
abbrev Environment := List (Text × Text)

/-- The least and the largest whole number that a variable can give. -/
def isInRange (n : Int) : Bool := -0x8000000000000000 ≤ n && n < 0x8000000000000000

/-- What the value of a variable denotes: the name of a truth value in letters of any case, a whole
number, another number, or else itself. -/
def scalarOf (s : Text) : Scalar :=
  match Text.bool? s.lower, (Text.integer? s).filter isInRange, Binary64.parse? s with
  | some b, _, _ => .boolean b
  | none, some n, _ => .integer n
  | none, none, some x => .float x
  | none, none, none => .string s

/-- What two underscores stand for in the name of a variable. -/
def separator : Text := "__".toList

/-- What the names of the variables start with that count, in lower case. -/
def startOf (group : Text) : Text := (group ++ separator).lower

/-- The name of the setting that a variable of this name gives, if it counts. The case of its letters
does not matter. -/
def settingName? (group name : Text) : Option Text :=
  if startOf group <+: name.lower then
    some (['.'].intercalate (Text.pieces separator (name.lower.drop (startOf group).length)))
  else none

theorem settingName?_eq_none_iff {group name : Text} :
    settingName? group name = none ↔ ¬ startOf group <+: name.lower := by
  unfold settingName?
  split <;> simp_all

/-- Where the values of variables come from. -/
def environmentOrigin : Text := "the environment".toList

/-- The settings that variables give. Of variables for the same setting the last one counts. -/
def ofEnvironment (group : Text) (environment : Environment) : Entries :=
  environment.foldl (fun entries (name, value) =>
    match settingName? group name with
    | some setting => entries.put setting (.scalar environmentOrigin (scalarOf value))
    | none => entries) []

end Settings

end Scribe
