import Gaze.Error
import Gaze.SensorVector
import Gaze.Text.Blank
import Gaze.Text.Split
/-!
The fields of a message line.

A line is split at its delimiter; each piece is trimmed and empty pieces are dropped. A piece is
a pair `key=value`, cut at its first `=`, with key and value trimmed again. A piece without `=`
makes the whole line unreadable. When a key comes twice, the later value counts.

Values are read as the field needs them: a float literal, an integer literal, one of the four
flag words, or a vector in braces whose comma-separated components are float literals.
-/

namespace Gaze.Message

/-- The key and value pairs of a line, in the order they appear. -/
structure Fields where
  /-- The pairs, first to last. -/
  pairs : List (String × String)

namespace Fields

/-- A trimmed piece as a pair, cut at its first `=`. -/
def pairOf (piece : List Char) : Except Error (String × String) :=
  match piece.dropWhile (· ≠ '=') with
  | [] => .error (.parse (String.ofList piece) .noPair)
  | _ :: value =>
    .ok (String.ofList (Text.trimChars (piece.takeWhile (· ≠ '='))),
      String.ofList (Text.trimChars value))

/-- The fields of a line under a delimiter. -/
def split (line delim : String) : Except Error Fields := do
  let pieces := ((Text.split delim.toList line.toList).map Text.trimChars).filter (· ≠ [])
  return ⟨← pieces.mapM pairOf⟩

/-- The value of the last pair with this key. -/
def get? (f : Fields) (key : String) : Option String :=
  (f.pairs.reverse.find? (·.1 == key)).map (·.2)

/-- The value of a field that must be present. -/
def text (f : Fields) (key : String) : Except Error String :=
  match f.get? key with
  | some v => .ok v
  | none => .error (.missingField key)

/-- A float field. -/
def number (f : Fields) (key : String) : Except Error Float := do
  match Text.readFloat (← f.text key) with
  | .ok x => .ok x
  | .error e => .error (.parse key (.float e))

/-- A signed 64-bit integer field. -/
def integer (f : Fields) (key : String) : Except Error Int64 := do
  match Text.readInt64 (← f.text key) with
  | .ok n => .ok n
  | .error e => .error (.parse key (.integer e))

/-- A flag field: `True` or `true`, `False` or `false`. -/
def flag (f : Fields) (key : String) : Except Error Bool := do
  match ← f.text key with
  | "True" | "true" => .ok true
  | "False" | "false" => .ok false
  | other => .error (.parse key (.notBoolean other))

/-- The inside of a text in braces. -/
def unbrace (cs : List Char) : Option (List Char) :=
  match cs with
  | '\x7b' :: rest => if rest.getLast? = some '\x7d' then some rest.dropLast else none
  | _ => none

/-- A vector field: components in braces, separated by commas, each a float literal. -/
def vector (f : Fields) (key : String) : Except Error (SensorVector Float) := do
  let raw ← f.text key
  match unbrace raw.toList with
  | none => .error (.parse key (.notVector raw))
  | some inner =>
    let components ← (Text.split [','] inner).mapM fun c =>
      match Text.readFloat (String.ofList (Text.trimChars c)) with
      | .ok x => .ok x
      | .error e => .error (.parse key (.float e))
    SensorVector.ofComponents components

/-- A planar vector field. -/
def vec2 (f : Fields) (key : String) : Except Error (Vec2 Float) := do
  (← f.vector key).toVec2

/-- A spatial vector field. -/
def vec3 (f : Fields) (key : String) : Except Error (Vec3 Float) := do
  (← f.vector key).toVec3

end Fields

end Gaze.Message
