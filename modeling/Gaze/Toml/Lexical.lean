import Gaze.Toml.Value
import Gaze.Decimal.Nearest
import Gaze.Text.NumberLiteral
/-!
The lexical layer of TOML: blanks, comments, line ends, keys, strings and the scalar values
(booleans, integers, floats and date-times).

Every reader takes the remaining characters and returns what it read with the characters after
it, or nothing when the text is not of its form. Strings are read one character at a time, with
escapes and line-ending backslashes handled as they come.
-/

namespace Gaze.Toml

/-- A space or a tab. -/
def isSpace (c : Char) : Bool := c = ' ' || c = '\t'

/-- The text after its leading spaces and tabs. -/
def skipSpaces (cs : List Char) : List Char := cs.dropWhile isSpace

/-- Characters that may stand in a comment: the tab, printable ASCII, and all beyond ASCII. -/
def isCommentChar (c : Char) : Bool :=
  c = '\t' || (0x20 ≤ c.toNat && c.toNat ≤ 0x7E) || 0x80 ≤ c.toNat

/-- The rest after the end of a line, or after the end of the text. -/
def lineEnd : List Char → Option (List Char)
  | [] => some []
  | '\n' :: r => some r
  | '\r' :: '\n' :: r => some r
  | _ => none

/-- The rest after spaces, an optional comment, and the end of the line. -/
def restOfLine (cs : List Char) : Option (List Char) :=
  match skipSpaces cs with
  | '#' :: r => lineEnd (r.dropWhile isCommentChar)
  | r => lineEnd r

/-- The rest after any blanks, line ends and comments; `inComment` is set inside a comment. -/
def skipBlankLines (inComment : Bool) : List Char → Option (List Char)
  | [] => some []
  | '\n' :: r => skipBlankLines false r
  | '\r' :: '\n' :: r => skipBlankLines false r
  | c :: r =>
    if inComment then (if isCommentChar c then skipBlankLines true r else none)
    else if isSpace c then skipBlankLines false r
    else if c = '#' then skipBlankLines true r
    else some (c :: r)

/-- Whether a character may stand in a bare key. -/
def isBareKeyChar (c : Char) : Bool :=
  ('A' ≤ c && c ≤ 'Z') || ('a' ≤ c && c ≤ 'z') || c.isDigit || c = '_' || c = '-'

/-- The value of a hexadecimal digit. -/
def hexValue (c : Char) : Option Nat :=
  if c.isDigit then some (c.toNat - '0'.toNat)
  else if 'a' ≤ c && c ≤ 'f' then some (c.toNat - 'a'.toNat + 10)
  else if 'A' ≤ c && c ≤ 'F' then some (c.toNat - 'A'.toNat + 10)
  else none

/-- The character with the code written by these hexadecimal digits, if it is a Unicode scalar
value. -/
def scalarOfHex (ds : List Char) : Option Char := do
  let n ← ds.foldlM (fun acc d => (hexValue d).map (acc * 16 + ·)) 0
  if n < 0xD800 ∨ (0xDFFF < n ∧ n < 0x110000) then some (Char.ofNat n) else none

/-- Whether a character may stand unescaped in a basic string: anything but the controls, the
tab excepted. -/
def isStringChar (c : Char) : Bool := c = '\t' || (0x20 ≤ c.toNat && c.toNat ≠ 0x7F)

/-- The character that an escape letter stands for. -/
def escapeChar : Char → Option Char
  | 'b' => some '\x08'
  | 't' => some '\t'
  | 'n' => some '\n'
  | 'f' => some '\x0c'
  | 'r' => some '\r'
  | '"' => some '"'
  | '\\' => some '\\'
  | _ => none

/-- A basic string after its opening quote; `acc` holds what was read, reversed. -/
def basicString : List Char → List Char → Option (String × List Char)
  | [], _ => none
  | '"' :: r, acc => some (String.ofList acc.reverse, r)
  | '\\' :: 'u' :: a :: b :: c :: d :: r, acc =>
    (scalarOfHex [a, b, c, d]).bind fun ch => basicString r (ch :: acc)
  | '\\' :: 'U' :: a :: b :: c :: d :: e :: f :: g :: h :: r, acc =>
    (scalarOfHex [a, b, c, d, e, f, g, h]).bind fun ch => basicString r (ch :: acc)
  | '\\' :: e :: r, acc => (escapeChar e).bind fun ch => basicString r (ch :: acc)
  | c :: r, acc => if isStringChar c then basicString r (c :: acc) else none

/-- A literal string after its opening apostrophe. -/
def literalString : List Char → List Char → Option (String × List Char)
  | [], _ => none
  | '\'' :: r, acc => some (String.ofList acc.reverse, r)
  | c :: r, acc => if isStringChar c then literalString r (c :: acc) else none

/-- The text after a line end that directly follows the opening delimiter of a multi-line
string. -/
def dropFirstLineEnd : List Char → List Char
  | '\n' :: r => r
  | '\r' :: '\n' :: r => r
  | r => r

/-- Where a multi-line basic string is after a backslash: in plain text, after a backslash
and spaces that must reach the line end, or trimming blanks up to the next text. -/
inductive TrimMode where
  /-- Plain text. -/
  | plain
  /-- After a backslash and spaces or tabs; a line end must come next. -/
  | awaitLineEnd
  /-- Skipping spaces, tabs and line ends. -/
  | trimming

/-- Plain text comes after the other modes, at the same character. -/
@[simp] def TrimMode.rank : TrimMode → Nat
  | .plain => 0
  | .awaitLineEnd => 1
  | .trimming => 2

/-- A closing run of `n` quotes, after which the string ends: the quotes beyond three belong to
the string, and there may be at most two of those. -/
def closeRun (q : Char) (acc : List Char) (n : Nat) (rest : List Char) :
    Option (String × List Char) :=
  if n ≤ 5 then some (String.ofList (acc.reverse ++ List.replicate (n - 3) q), rest) else none

/-- The number of `q` at the front of a text, and the rest. -/
def countRun (q : Char) (cs : List Char) : Nat × List Char :=
  ((cs.takeWhile (· == q)).length, cs.dropWhile (· == q))

/-- A multi-line basic string after its opening delimiter and first line end. -/
def mlBasicString : TrimMode → List Char → List Char → Option (String × List Char)
  | _, [], _ => none
  | .awaitLineEnd, '\n' :: r, acc => mlBasicString .trimming r acc
  | .awaitLineEnd, '\r' :: '\n' :: r, acc => mlBasicString .trimming r acc
  | .awaitLineEnd, c :: r, acc => if isSpace c then mlBasicString .awaitLineEnd r acc else none
  | .trimming, c :: r, acc =>
    if isSpace c || c = '\n' then mlBasicString .trimming r acc
    else if c = '\r' then (match r with
      | '\n' :: r' => mlBasicString .trimming r' acc
      | _ => none)
    else mlBasicString .plain (c :: r) acc
  | .plain, '"' :: '"' :: '"' :: r, acc =>
    let (n, rest) := countRun '"' r
    closeRun '"' acc (n + 3) rest
  | .plain, '\\' :: 'u' :: a :: b :: c :: d :: r, acc =>
    (scalarOfHex [a, b, c, d]).bind fun ch => mlBasicString .plain r (ch :: acc)
  | .plain, '\\' :: 'U' :: a :: b :: c :: d :: e :: f :: g :: h :: r, acc =>
    (scalarOfHex [a, b, c, d, e, f, g, h]).bind fun ch => mlBasicString .plain r (ch :: acc)
  | .plain, '\\' :: '\n' :: r, acc => mlBasicString .trimming r acc
  | .plain, '\\' :: '\r' :: '\n' :: r, acc => mlBasicString .trimming r acc
  | .plain, '\\' :: e :: r, acc =>
    if isSpace e then mlBasicString .awaitLineEnd r acc
    else (escapeChar e).bind fun ch => mlBasicString .plain r (ch :: acc)
  | .plain, '\r' :: '\n' :: r, acc => mlBasicString .plain r ('\n' :: acc)
  | .plain, c :: r, acc =>
    if c = '\n' || isStringChar c then mlBasicString .plain r (c :: acc) else none
termination_by mode cs => (cs.length, mode.rank)

/-- A multi-line literal string after its opening delimiter and first line end. -/
def mlLiteralString : List Char → List Char → Option (String × List Char)
  | [], _ => none
  | '\'' :: '\'' :: '\'' :: r, acc =>
    let (n, rest) := countRun '\'' r
    closeRun '\'' acc (n + 3) rest
  | '\r' :: '\n' :: r, acc => mlLiteralString r ('\n' :: acc)
  | c :: r, acc =>
    if c = '\n' || isStringChar c then mlLiteralString r (c :: acc) else none

/-- One part of a key: bare, or a basic or literal string. -/
def simpleKey : List Char → Option (String × List Char)
  | '"' :: r => basicString r []
  | '\'' :: r => literalString r []
  | cs =>
    let k := cs.takeWhile isBareKeyChar
    if k.isEmpty then none else some (String.ofList k, cs.dropWhile isBareKeyChar)

/-- A key of one or more parts joined by dots, with spaces allowed around the dots. -/
def dottedKey : Nat → List Char → Option (List String × List Char)
  | 0, _ => none
  | n + 1, cs => do
    let (k, rest) ← simpleKey cs
    match skipSpaces rest with
    | '.' :: r =>
      let (ks, rest) ← dottedKey n (skipSpaces r)
      pure (k :: ks, rest)
    | _ => pure ([k], rest)

/-! ### Numbers and dates -/

/-- The digits after a first one, each optionally after one underscore, as read by `ok`;
the rest starts at the first character that does not continue the run. -/
def digitRun (ok : Char → Bool) : List Char → List Char × List Char
  | '_' :: d :: r =>
    if ok d then let (ds, rest) := digitRun ok r; (d :: ds, rest) else ([], '_' :: d :: r)
  | d :: r => if ok d then let (ds, rest) := digitRun ok r; (d :: ds, rest) else ([], d :: r)
  | [] => ([], [])

/-- A run of digits that starts with a digit, underscores allowed between digits. -/
def digits (ok : Char → Bool) : List Char → Option (List Char × List Char)
  | d :: r => if ok d then let (ds, rest) := digitRun ok r; some (d :: ds, rest) else none
  | [] => none

/-- The value of digits in a base. -/
def digitsValue (base : Nat) (ds : List Char) : Nat :=
  ds.foldl (fun acc d => acc * base + ((hexValue d).getD 0)) 0

/-- Whether an integer fits in 64 signed bits. -/
def fitsInt64 (n : Int) : Bool := -9223372036854775808 ≤ n && n < 9223372036854775808

/-- Whether a character is an octal digit. -/
def isOctal (c : Char) : Bool := '0' ≤ c && c ≤ '7'

/-- Whether a character is a binary digit. -/
def isBinary (c : Char) : Bool := c = '0' || c = '1'

/-- Whether a character is a hexadecimal digit. -/
def isHex (c : Char) : Bool := (hexValue c).isSome

/-- An integer written in base 16, 8 or 2 after its prefix: the whole token. -/
def radixInteger (base : Nat) (ok : Char → Bool) (cs : List Char) : Option Value := do
  let (ds, rest) ← digits ok cs
  let n : Int := digitsValue base ds
  if rest.isEmpty && fitsInt64 n then some (.integer n) else none

/-- The integer part of a decimal number: `0`, or a nonzero digit and more. -/
def integerPart (cs : List Char) : Option (List Char × List Char) :=
  match cs with
  | '0' :: r => some (['0'], r)
  | _ => digits Char.isDigit cs

/-- A decimal integer or float, the whole token, with its optional sign. -/
def decimalNumber (cs : List Char) : Option Value := do
  let (negative, body) := match cs with
    | '+' :: r => (false, r)
    | '-' :: r => (true, r)
    | r => (false, r)
  let (whole, rest) ← integerPart body
  let (fraction, isFloat1, rest) ← match rest with
    | '.' :: r => do let (f, r) ← digits Char.isDigit r; pure (f, true, r)
    | r => pure ([], false, r)
  let (exponent, isFloat2, rest) ← match rest with
    | c :: r =>
      if c = 'e' ∨ c = 'E' then do
        let (eneg, r) := match r with
          | '+' :: r => (false, r)
          | '-' :: r => (true, r)
          | r => (false, r)
        let (es, r) ← digits Char.isDigit r
        let e : Int := Text.digitsValue es
        pure (if eneg then -e else e, true, r)
      else pure (0, false, c :: r)
    | [] => pure (0, false, [])
  if !rest.isEmpty then none
  else if isFloat1 || isFloat2 then
    let x := Decimal.toFloat negative (Text.digitsValue (whole ++ fraction))
      (exponent - fraction.length)
    if x == 1.0 / 0.0 then none else some (.float x)
  else
    let n : Int := Text.digitsValue whole
    let n := if negative then -n else n
    if fitsInt64 n then some (.integer n) else none

/-- Exactly `n` ASCII digits, and their value. -/
def fixedDigits (n : Nat) (cs : List Char) : Option (Nat × List Char) :=
  let ds := cs.take n
  if ds.length = n ∧ ds.all Char.isDigit then some (Text.digitsValue ds, cs.drop n) else none

/-- Whether a year is a leap year. -/
def isLeapYear (y : Nat) : Bool := y % 4 = 0 && (y % 100 ≠ 0 || y % 400 = 0)

/-- The number of days of a month. -/
def daysInMonth (y m : Nat) : Nat :=
  if m = 2 then (if isLeapYear y then 29 else 28)
  else if m = 4 ∨ m = 6 ∨ m = 9 ∨ m = 11 then 30 else 31

/-- A date `YYYY-MM-DD` of the calendar. -/
def fullDate (cs : List Char) : Option (List Char) := do
  let (y, r) ← fixedDigits 4 cs
  let r ← match r with | '-' :: r => some r | _ => none
  let (m, r) ← fixedDigits 2 r
  let r ← match r with | '-' :: r => some r | _ => none
  let (d, r) ← fixedDigits 2 r
  if 1 ≤ m ∧ m ≤ 12 ∧ 1 ≤ d ∧ d ≤ daysInMonth y m then some r else none

/-- A time `HH:MM:SS` with optional fraction of a second. -/
def partialTime (cs : List Char) : Option (List Char) := do
  let (h, r) ← fixedDigits 2 cs
  let r ← match r with | ':' :: r => some r | _ => none
  let (m, r) ← fixedDigits 2 r
  let r ← match r with | ':' :: r => some r | _ => none
  let (s, r) ← fixedDigits 2 r
  if h ≤ 23 ∧ m ≤ 59 ∧ s ≤ 60 then
    match r with
    | '.' :: r =>
      let fs := r.takeWhile Char.isDigit
      if fs.isEmpty then none else some (r.dropWhile Char.isDigit)
    | r => some r
  else none

/-- A time offset: `Z`, or a sign, hours and minutes. -/
def timeOffset (cs : List Char) : Option (List Char) :=
  match cs with
  | 'Z' :: r | 'z' :: r => some r
  | c :: r =>
    if c = '+' ∨ c = '-' then do
      let (h, r) ← fixedDigits 2 r
      let r ← match r with | ':' :: r => some r | _ => none
      let (m, r) ← fixedDigits 2 r
      if h ≤ 23 ∧ m ≤ 59 then some r else none
    else none
  | [] => none

/-- Whether a token is a date, a time, a date with a time, or that with an offset. -/
def isDateTime (cs : List Char) : Bool :=
  match fullDate cs with
  | some [] => true
  | some (c :: r) =>
    if c = 'T' ∨ c = 't' ∨ c = ' ' then
      match partialTime r with
      | some [] => true
      | some r => timeOffset r == some []
      | none => false
    else false
  | none => partialTime cs == some []

/-- Whether a character can belong to a scalar token. -/
def isTokenChar (c : Char) : Bool :=
  c.isAlphanum || c = '_' || c = '+' || c = '-' || c = '.' || c = ':'

/-- The scalar token at the front of a value, joining a date and a time separated by one
space. -/
def scalarToken (cs : List Char) : List Char × List Char :=
  let tok := cs.takeWhile isTokenChar
  let rest := cs.dropWhile isTokenChar
  match rest with
  | ' ' :: a :: b :: ':' :: _ =>
    if fullDate tok == some [] && a.isDigit && b.isDigit then
      let more := rest.tail.takeWhile isTokenChar
      (tok ++ ' ' :: more, rest.tail.dropWhile isTokenChar)
    else (tok, rest)
  | _ => (tok, rest)

/-- The value of a scalar token. -/
def scalarValue (tok : List Char) : Option Value :=
  match tok with
  | ['t', 'r', 'u', 'e'] => some (.boolean true)
  | ['f', 'a', 'l', 's', 'e'] => some (.boolean false)
  | ['i', 'n', 'f'] | ['+', 'i', 'n', 'f'] => some (.float (1.0 / 0.0))
  | ['-', 'i', 'n', 'f'] => some (.float (-1.0 / 0.0))
  | ['n', 'a', 'n'] | ['+', 'n', 'a', 'n'] => some (.float (0.0 / 0.0))
  | ['-', 'n', 'a', 'n'] => some (.float (-(0.0 / 0.0)))
  | '0' :: 'x' :: r => radixInteger 16 isHex r
  | '0' :: 'o' :: r => radixInteger 8 isOctal r
  | '0' :: 'b' :: r => radixInteger 2 isBinary r
  | _ => if isDateTime tok then some (.datetime (String.ofList tok)) else decimalNumber tok

end Gaze.Toml
