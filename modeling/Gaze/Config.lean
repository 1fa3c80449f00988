import Gaze.Error
import Gaze.Text.Alphanumeric
import Gaze.Vergence
/-!
Configuration of the gaze pipeline.

A configuration holds the vergence policy and the message delimiter. A delimiter is refused when
every one of its characters could belong to the text of a pair (alphanumeric characters and
`_ . - + { } , =`), the empty delimiter included: such a delimiter can occur inside a key, a
value or a number, and splitting would cut there.
-/

namespace Gaze

/-- The characters besides alphanumeric ones that the text of a pair can hold. -/
def pairPunctuation : List Char := ['_', '.', '-', '+', '\x7b', '\x7d', ',', '=']

/-- Whether a character can occur in the text of a pair. -/
def inPair (c : Char) : Bool := Text.isAlphanumeric c || pairPunctuation.contains c

/-- How messages are cut into pairs. -/
structure MessageConfig where
  /-- The text after every pair. -/
  delimiter : String
  deriving Repr

namespace MessageConfig

/-- The default delimiter, a semicolon and a space. -/
def default : MessageConfig := ⟨"; "⟩

/-- Accepts a delimiter that holds a character no pair can hold. -/
def validate (m : MessageConfig) : Except Error Unit :=
  if m.delimiter.toList.all inPair then .error (.config (.ambiguousDelimiter m.delimiter))
  else .ok ()

/-- A delimiter is accepted exactly when one of its characters cannot occur in a pair. -/
theorem validate_eq_ok_iff (m : MessageConfig) :
    m.validate = .ok () ↔ ∃ c ∈ m.delimiter.toList, inPair c = false := by
  unfold validate
  split <;> rename_i h
  · simp only [reduceCtorEq, false_iff, not_exists, not_and, Bool.not_eq_false]
    exact List.all_eq_true.1 h
  · simp only [true_iff]
    simpa using h

end MessageConfig

/-- The configuration of the gaze pipeline. -/
structure GazeConfig where
  /-- The vergence policy. -/
  vergence : Vergence.Config Float
  /-- The message delimiter. -/
  message : MessageConfig

/-- The default configuration. -/
def GazeConfig.default : GazeConfig := ⟨Vergence.Config.default, MessageConfig.default⟩

end Gaze
