/-!
TOML values.

A TOML document is a table: keys mapped to strings, integers, floats, booleans, date-times,
arrays and tables. Date-times are kept as their text; nothing in this library reads them.
-/

namespace Gaze.Toml

/-- A TOML value. -/
inductive Value where
  /-- A string. -/
  | string (s : String)
  /-- A signed 64-bit integer. -/
  | integer (n : Int)
  /-- A float. -/
  | float (x : Float)
  /-- A boolean. -/
  | boolean (b : Bool)
  /-- A date, a time or both, as written. -/
  | datetime (text : String)
  /-- An array. -/
  | array (items : List Value)
  /-- A table, its keys in the order they were defined. -/
  | table (entries : List (String × Value))
  deriving Inhabited

/-- The value under a key of a table's entries. -/
def lookup (entries : List (String × Value)) (key : String) : Option Value :=
  (entries.find? (·.1 == key)).map (·.2)

end Gaze.Toml
