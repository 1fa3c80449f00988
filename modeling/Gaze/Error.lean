import Gaze.Decimal.Positional
import Gaze.Text.NumberLiteral
import Gaze.Text.Quoted
/-!
Errors of the gaze library.

The numeric core never fails. Errors come from configuration, from reading messages, and from
accuracy checks against a target that sits on the eye. Each error is a cause with its data; its
words are written in one place, `Error.message`.
-/

namespace Gaze

/-- Why a configuration is refused. -/
inductive ConfigError where
  /-- The message delimiter could be mistaken for the text of a pair. -/
  | ambiguousDelimiter (delimiter : String)
  /-- The simulated event period is not a positive number. -/
  | nonPositivePeriod (period : Float)
  /-- The simulated gaze noise is not a non-negative number. -/
  | negativeNoise (sigma : Float)
  /-- The configuration text is not TOML, or a setting has the wrong kind. -/
  | unreadable

/-- The words of a configuration error. -/
def ConfigError.message : ConfigError → String
  | .ambiguousDelimiter d =>
    "message delimiter " ++ Text.quote d ++ " is ambiguous with key=value pairs"
  | .nonPositivePeriod p => "event period must be positive, got " ++ floatText p
  | .negativeNoise s => "gaze noise must be non-negative, got " ++ floatText s
  | .unreadable => "the text is not a TOML configuration"

/-- Why the value of a message field cannot be read. -/
inductive ParseReason where
  /-- A piece of the message has no `=`. -/
  | noPair
  /-- A flag is none of `True`, `true`, `False`, `false`. -/
  | notBoolean (text : String)
  /-- A vector is not enclosed in braces. -/
  | notVector (text : String)
  /-- A number is not a float literal. -/
  | float (e : Text.FloatLiteralError)
  /-- A frame number is not an integer literal. -/
  | integer (e : Text.IntegerLiteralError)
  deriving Repr, DecidableEq

/-- The words of a parse reason. -/
def ParseReason.message : ParseReason → String
  | .noPair => "expected key=value"
  | .notBoolean t => "`" ++ t ++ "` is not a boolean"
  | .notVector t => "`" ++ t ++ "` is not a \x7b..\x7d vector"
  | .float e => e.message
  | .integer e => e.message

/-- An error of the gaze library. -/
inductive Error where
  /-- A configuration is refused. -/
  | config (e : ConfigError)
  /-- A vector has the wrong number of components. -/
  | dimension (expected actual : Nat)
  /-- A message field's value cannot be read. -/
  | parse (field : String) (reason : ParseReason)
  /-- A message lacks a field. -/
  | missingField (name : String)
  /-- An accuracy target coincides with the eye origin. -/
  | degenerateTarget

/-- The words of an error. -/
def Error.message : Error → String
  | .config e => "Configuration error: " ++ e.message
  | .dimension e a =>
    "Expected a " ++ toString e ++ "-component vector, got " ++ toString a ++ " components"
  | .parse f r => "Could not parse `" ++ f ++ "`: " ++ r.message
  | .missingField n => "Missing field: " ++ n
  | .degenerateTarget => "Gaze target coincides with the eye origin"

end Gaze
