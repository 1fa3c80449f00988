import Gaze.Decimal.Shortest
/-!
Floats as positional text.

The library writes a float as its shortest decimal, in full, with no exponent: `0.0000001`,
`1000000000000000000000`, `12.5`. A whole number has no point, a number below one starts with
`0.`, the sign of a negative number or of negative zero is a leading `-`, and the values that
are not numbers are written `NaN`, `inf` and `-inf`.
-/

namespace Gaze

namespace Decimal

/-- `n` zeros. -/
def zeros (n : Nat) : List Char := List.replicate n '0'

/-- The decimal written out in full: the digits, with a point where the exponent puts it,
padded with zeros on the side that needs them. -/
def positional (d : Decimal) : String :=
  if d.digits = 0 then "0"
  else
    let s := Nat.toDigits 10 d.digits
    let place : Int := s.length + d.exponent
    if place ≤ 0 then String.ofList ('0' :: '.' :: zeros (-place).toNat ++ s)
    else if place < s.length then
      String.ofList (s.take place.toNat ++ '.' :: s.drop place.toNat)
    else String.ofList (s ++ zeros (place.toNat - s.length))

end Decimal

/-- The spellings of a float's text that its digits leave open. -/
structure FloatStyle where
  /-- The text of a value that is not a number. -/
  notANumber : String
  /-- The text of positive infinity. -/
  infinity : String
  /-- The sign before a negative value, negative zero and negative infinity included. -/
  minus : String

namespace FloatStyle

/-- The style of messages and error texts: `NaN`, `inf` and a leading `-`. -/
def plain : FloatStyle := ⟨"NaN", "inf", "-"⟩

/-- A float in a style: its sign, then the shortest decimal in full or the word for it. -/
def render (st : FloatStyle) (x : Float) : String :=
  match Binary64.ofFloat x with
  | .nan => st.notANumber
  | .infinite negative => (if negative then st.minus else "") ++ st.infinity
  | .finite negative m e =>
    (if negative then st.minus else "") ++ (Decimal.ofMagnitude m e).positional

end FloatStyle

/-- The text of a float in this library's messages and error texts. -/
def floatText (x : Float) : String := FloatStyle.plain.render x

end Gaze
