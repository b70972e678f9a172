import Scribe.Number.Binary64
import Scribe.Toml.DateTime

/-!
# TOML values

What a TOML document holds: a table of values, in which each key occurs once.
-/

namespace Scribe

namespace Toml

/-- A value of a TOML document. -/
inductive Value where
  | string (s : Text)
  | integer (n : Int)
  | float (x : Binary64)
  | boolean (b : Bool)
  | dateTime (d : DateTime)
  | array (items : List Value)
  | table (entries : List (Text × Value))

end Toml

end Scribe
