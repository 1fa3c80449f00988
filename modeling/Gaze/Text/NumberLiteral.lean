import Gaze.Decimal.Nearest
/-!
Number literals in message text.

A float literal is an optional sign, then either `inf`, `infinity` or `nan` in any mix of case,
or ASCII digits with at most one point and an optional exponent `e` or `E` with its own optional
sign and at least one digit; there must be a digit before or after the point. The value is the
float nearest to the decimal.

An integer literal is an optional sign and ASCII digits, read into a signed 64-bit integer.
Its faults are found from the left: the first character that is not a digit, or the first
digit that carries the value out of range, decides the error.
-/

namespace Gaze.Text

/-- Why a float literal cannot be read. -/
inductive FloatLiteralError where
  /-- The text is empty. -/
  | empty
  /-- The text is not a float literal. -/
  | invalid
  deriving Repr, DecidableEq

/-- The words of a float literal error. -/
def FloatLiteralError.message : FloatLiteralError → String
  | .empty => "cannot parse float from empty string"
  | .invalid => "invalid float literal"

/-- Why an integer literal cannot be read. -/
inductive IntegerLiteralError where
  /-- The text is empty. -/
  | empty
  /-- A character is not a digit, or a sign stands alone. -/
  | invalidDigit
  /-- The value is above the largest 64-bit integer. -/
  | tooLarge
  /-- The value is below the smallest 64-bit integer. -/
  | tooSmall
  deriving Repr, DecidableEq

/-- The words of an integer literal error. -/
def IntegerLiteralError.message : IntegerLiteralError → String
  | .empty => "cannot parse integer from empty string"
  | .invalidDigit => "invalid digit found in string"
  | .tooLarge => "number too large to fit in target type"
  | .tooSmall => "number too small to fit in target type"

/-- The leading ASCII digits and what follows them. -/
def spanDigits (cs : List Char) : List Char × List Char :=
  (cs.takeWhile Char.isDigit, cs.dropWhile Char.isDigit)

/-- The value of a string of ASCII digits. -/
def digitsValue (ds : List Char) : Nat :=
  ds.foldl (fun acc c => acc * 10 + (c.toNat - '0'.toNat)) 0

/-- The exponent part after `e`: an optional sign and at least one digit, the whole rest. -/
def readExponent (cs : List Char) : Option Int :=
  let (negative, body) := match cs with
    | '+' :: r => (false, r)
    | '-' :: r => (true, r)
    | r => (false, r)
  let (ds, rest) := spanDigits body
  if ds.isEmpty || !rest.isEmpty then none
  else some (if negative then -(digitsValue ds : Int) else digitsValue ds)

/-- An unsigned decimal literal as `(d, k)` for the number `d · 10^k`, when the whole text is
one. -/
def readDecimal (cs : List Char) : Option (Nat × Int) :=
  let (whole, rest) := spanDigits cs
  let (fraction, rest) := match rest with
    | '.' :: r => spanDigits r
    | r => ([], r)
  if whole.isEmpty && fraction.isEmpty then none
  else
    let d := digitsValue (whole ++ fraction)
    let k : Int := -(fraction.length : Int)
    match rest with
    | [] => some (d, k)
    | c :: r =>
      if c = 'e' ∨ c = 'E' then (readExponent r).map fun e => (d, k + e) else none

/-- The words for the values that are not numbers, in lower case. -/
def readSpecial (cs : List Char) : Option Float :=
  match cs.map Char.toLower with
  | ['n', 'a', 'n'] => some (0.0 / 0.0)
  | ['i', 'n', 'f'] => some (1.0 / 0.0)
  | ['i', 'n', 'f', 'i', 'n', 'i', 't', 'y'] => some (1.0 / 0.0)
  | _ => none

/-- A float literal's value. -/
def readFloat (s : String) : Except FloatLiteralError Float :=
  match s.toList with
  | [] => .error .empty
  | c :: r =>
    let (negative, body) :=
      if c = '-' then (true, r) else if c = '+' then (false, r) else (false, c :: r)
    if body.isEmpty then .error .invalid
    else match readDecimal body with
      | some (d, k) => .ok (Decimal.toFloat negative d k)
      | none =>
        match readSpecial body with
        | some x => .ok (if negative then -x else x)
        | none => .error .invalid

/-- The smallest signed 64-bit integer, as an integer. -/
def int64Min : Int := -9223372036854775808

/-- The largest signed 64-bit integer, as an integer. -/
def int64Max : Int := 9223372036854775807

/-- Digits read from the left into `acc`, away from zero in the direction of the sign. -/
def readDigits (negative : Bool) : List Char → Int → Except IntegerLiteralError Int
  | [], acc => .ok acc
  | c :: r, acc =>
    if !c.isDigit then .error .invalidDigit
    else
      let digit : Int := c.toNat - '0'.toNat
      let acc := if negative then acc * 10 - digit else acc * 10 + digit
      if int64Max < acc then .error .tooLarge
      else if acc < int64Min then .error .tooSmall
      else readDigits negative r acc

/-- An integer literal's value. -/
def readInt64 (s : String) : Except IntegerLiteralError Int64 :=
  let digits : Except IntegerLiteralError Int := match s.toList with
    | [] => .error .empty
    | ['+'] | ['-'] => .error .invalidDigit
    | '+' :: r => readDigits false r 0
    | '-' :: r => readDigits true r 0
    | cs => readDigits false cs 0
  digits.map Int64.ofInt

end Gaze.Text
