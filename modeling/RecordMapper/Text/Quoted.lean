import RecordMapper.Text.Lines

/-!
# Quoted text

Two ways of putting a text into quotes: as a string literal of generated code, and as it is shown
inside messages.
-/
namespace RecordMapper.Text

/-- A double-quoted literal: backslashes are doubled first, then quotes get a backslash. -/
def literal (s : String) : String :=
  "\"" ++ replaceAll "\"" "\\\"" (replaceAll "\\" "\\\\" s) ++ "\""

/-- The lower-case hexadecimal digits of a number, filled up with zeros to a width. -/
def hex (width n : Nat) : List Char :=
  let digits := Nat.toDigits 16 n
  List.replicate (width - digits.length) '0' ++ digits

/-- The escape of a character by its code point, in the shortest of three widths. -/
def codeEscape (c : Char) : List Char :=
  if c.toNat ≤ 0xFF then '\\' :: 'x' :: hex 2 c.toNat
  else if c.toNat ≤ 0xFFFF then '\\' :: 'u' :: hex 4 c.toNat
  else '\\' :: 'U' :: hex 8 c.toNat

/-- One character of a shown text between the given quotes. -/
def shownChar (quote c : Char) : List Char :=
  if c = quote || c = '\\' then ['\\', c]
  else if c = '\n' then ['\\', 'n']
  else if c = '\r' then ['\\', 'r']
  else if c = '\t' then ['\\', 't']
  else if isShowable c then [c]
  else codeEscape c

/-- A text as messages show it: in single quotes, or in double quotes when it holds a single and
no double quote. -/
def shown (s : String) : String :=
  let cs := s.toList
  let quote := if cs.contains '\x27' && !cs.contains '\x22' then '\x22' else '\x27'
  String.ofList (quote :: cs.flatMap (shownChar quote) ++ [quote])

/-- A list of texts as messages show it. -/
def shownList (items : List String) : String :=
  "[" ++ join ", " (items.map shown) ++ "]"

end RecordMapper.Text
