import Gaze.Config
import Gaze.Toml.Document
import Gaze.Toml.Decode
/-!
Loading a configuration from TOML text.

The document may have a `vergence` and a `message` section, as tables or inline tables; every
setting is optional and takes its default, and unknown keys are ignored. A section can also be
written as an array of its settings in order. Text that is not TOML, or a setting of the wrong
kind, makes the configuration unreadable; a readable one must still pass the delimiter check.
-/

namespace Gaze

open Toml

/-- The vergence policy of a TOML section. -/
def Vergence.Config.ofToml (v : Value) : Option (Vergence.Config Float) :=
  let d : Vergence.Config Float := Vergence.Config.default
  match v with
  | .table es => do
    pure ⟨← optional es "parallel_epsilon" Value.asFloat d.parallelEpsilon,
      ← optional es "parallel_fallback" Value.asFloat d.parallelFallback,
      ← optional es "strict" Value.asBool d.strict,
      ← optional es "units_per_meter" Value.asFloat d.unitsPerMeter⟩
  | .array items => do
    pure ⟨← positional items 0 Value.asFloat d.parallelEpsilon,
      ← positional items 1 Value.asFloat d.parallelFallback,
      ← positional items 2 Value.asBool d.strict,
      ← positional items 3 Value.asFloat d.unitsPerMeter⟩
  | _ => none

/-- The message settings of a TOML section. -/
def MessageConfig.ofToml (v : Value) : Option MessageConfig :=
  match v with
  | .table es =>
    do pure ⟨← optional es "delimiter" Value.asString MessageConfig.default.delimiter⟩
  | .array items =>
    do pure ⟨← positional items 0 Value.asString MessageConfig.default.delimiter⟩
  | _ => none

/-- The configuration of a TOML document's root table. -/
def GazeConfig.ofToml (entries : List (String × Value)) : Option GazeConfig := do
  pure ⟨← optional entries "vergence" Vergence.Config.ofToml Vergence.Config.default,
    ← optional entries "message" MessageConfig.ofToml MessageConfig.default⟩

/-- The configuration written in a TOML text, with its delimiter checked. -/
def GazeConfig.load (text : String) : Except Error GazeConfig :=
  match (Toml.parse text).bind GazeConfig.ofToml with
  | none => .error (.config .unreadable)
  | some c => c.message.validate.map fun _ => c

end Gaze
