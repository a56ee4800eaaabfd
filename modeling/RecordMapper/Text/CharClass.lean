import RecordMapper.Text.CharData

/-!
# Character classes

Which characters count as blank, as digits and as fit to be shown. A class is a list of bounds: a
character belongs to it when the number of bounds at or below its code point is odd.
-/
namespace RecordMapper.Text

/-- Membership in the class with the given ascending bounds. -/
def withinBounds (bounds : List Nat) (c : Char) : Bool :=
  (bounds.takeWhile (· ≤ c.toNat)).length % 2 == 1

/-- White space, information separators included. -/
def isBlank (c : Char) : Bool :=
  let n := c.toNat
  (9 ≤ n && n ≤ 13) || (28 ≤ n && n ≤ 32) || n == 0x85 || n == 0xA0 || n == 0x1680
    || (0x2000 ≤ n && n ≤ 0x200A) || n == 0x2028 || n == 0x2029 || n == 0x202F || n == 0x205F
    || n == 0x3000

/-- White space without the information separators U+001C to U+001F. -/
def isSpacing (c : Char) : Bool :=
  isBlank c && !(28 ≤ c.toNat && c.toNat ≤ 31)

/-- A character with a digit value, in any script. -/
def isDigitLike (c : Char) : Bool :=
  withinBounds digitBounds c

/-- A decimal digit, in any script. -/
def isDecimalDigit (c : Char) : Bool :=
  withinBounds decimalBounds c

/-- A character that messages show as itself. -/
def isShowable (c : Char) : Bool :=
  if c.toNat < 128 then 32 ≤ c.toNat && c.toNat < 127 else !withinBounds hiddenBounds c

/-- Nothing but white space, possibly nothing at all. -/
def isBlankText (s : String) : Bool :=
  s.toList.all isBlank

/-- At least one character, and every one with a digit value. -/
def isNumeral (s : String) : Bool :=
  !s.isEmpty && s.toList.all isDigitLike

end RecordMapper.Text
