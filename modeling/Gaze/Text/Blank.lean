/-!
Blank characters and trimming.

A character is blank when it has the White_Space property of the Unicode Character Database:
the ASCII tab, line feed, vertical tab, form feed, carriage return and space, the next-line
control, the no-break space, and the Unicode spaces and line and paragraph separators. Trimming
removes blank characters from both ends of a text and keeps everything between.
-/

namespace Gaze.Text

/-- The blank code points, as closed ranges in increasing order. -/
def blankRanges : List (Nat × Nat) :=
  [(0x9, 0xD), (0x20, 0x20), (0x85, 0x85), (0xA0, 0xA0), (0x1680, 0x1680), (0x2000, 0x200A),
    (0x2028, 0x2029), (0x202F, 0x202F), (0x205F, 0x205F), (0x3000, 0x3000)]

/-- Whether a character is blank. -/
def isBlank (c : Char) : Bool :=
  blankRanges.any fun r => r.1 ≤ c.toNat && c.toNat ≤ r.2

/-- The characters without their blank ends. -/
def trimChars (cs : List Char) : List Char :=
  ((cs.dropWhile isBlank).reverse.dropWhile isBlank).reverse

/-- The text without its blank ends. -/
def trim (s : String) : String := String.ofList (trimChars s.toList)

/-- Every character that core calls whitespace is blank. -/
theorem isBlank_of_isWhitespace (c : Char) (h : c.isWhitespace = true) : isBlank c = true := by
  simp only [Char.isWhitespace, Bool.or_eq_true, decide_eq_true_eq] at h
  rcases h with ((h | h) | h) | h <;> subst h <;> decide

end Gaze.Text
