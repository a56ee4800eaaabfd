import RecordMapper.Value

/-!
# Reading JSON

A reader of JSON text, with words for infinities and for what is not a number. Of a key that is
written twice the last value counts, in the place of the first. Texts are made of characters, so
half of a surrogate pair cannot be kept. Every reader takes the characters still to be read and
gives back what it leaves.
-/
namespace RecordMapper.Json

open RecordMapper.Number

def isSpace (c : Char) : Bool := c = ' ' || c = '\t' || c = '\n' || c = '\r'

def skipSpace (cs : List Char) : List Char := cs.dropWhile isSpace

/-- The value of a hexadecimal digit. -/
def hexDigit? (c : Char) : Option Nat :=
  if c.isDigit then some (c.toNat - 48)
  else if 'a' ≤ c && c ≤ 'f' then some (c.toNat - 87)
  else if 'A' ≤ c && c ≤ 'F' then some (c.toNat - 55)
  else none

/-- The number that four hexadecimal digits stand for. -/
def hexUnit? (a b c d : Char) : Option Nat := do
  return (((← hexDigit? a) * 16 + (← hexDigit? b)) * 16 + (← hexDigit? c)) * 16 + (← hexDigit? d)

/-- The character of an escape with one letter. -/
def simpleEscape? (c : Char) : Option Char :=
  if c = '\x22' || c = '\\' || c = '/' then some c
  else if c = 'b' then some '\x08'
  else if c = 'f' then some '\x0c'
  else if c = 'n' then some '\n'
  else if c = 'r' then some '\r'
  else if c = 't' then some '\t'
  else none

/-- The rest of a string after its opening quote. Two escaped halves of a surrogate pair make one
character; a half alone, which stands for none, is read as NUL. -/
def readString (done : List Char) : List Char → Option (String × List Char)
  | [] => none
  | '\x22' :: rest => some (String.ofList done.reverse, rest)
  | '\\' :: 'u' :: a :: b :: c :: d :: '\\' :: 'u' :: e :: f :: g :: h :: rest =>
    match hexUnit? a b c d, hexUnit? e f g h with
    | some high, some low =>
      if 0xD800 ≤ high && high < 0xDC00 && 0xDC00 ≤ low && low < 0xE000 then
        readString (Char.ofNat (0x10000 + (high - 0xD800) * 1024 + (low - 0xDC00)) :: done) rest
      else readString (Char.ofNat high :: done) ('\\' :: 'u' :: e :: f :: g :: h :: rest)
    | some unit, none =>
      readString (Char.ofNat unit :: done) ('\\' :: 'u' :: e :: f :: g :: h :: rest)
    | none, _ => none
  | '\\' :: 'u' :: a :: b :: c :: d :: rest =>
    match hexUnit? a b c d with
    | some unit => readString (Char.ofNat unit :: done) rest
    | none => none
  | '\\' :: c :: rest =>
    match simpleEscape? c with
    | some e => readString (e :: done) rest
    | none => none
  | c :: rest => if c.toNat < 32 || c = '\\' then none else readString (c :: done) rest

def digitsValue (digits : List Char) : Nat :=
  digits.foldl (fun n c => n * 10 + (c.toNat - 48)) 0

/-- The digits after a point, `none` when there is no fraction. -/
def readFraction : List Char → Option (List Char) × List Char
  | '.' :: rest =>
    let digits := rest.takeWhile Char.isDigit
    if digits.isEmpty then (none, '.' :: rest) else (some digits, rest.dropWhile Char.isDigit)
  | cs => (none, cs)

/-- The exponent after `e`, `none` when there is none. -/
def readExponent (cs : List Char) : Option Int × List Char :=
  match cs with
  | e :: rest =>
    if e = 'e' || e = 'E' then
      let (negative, digits) := match rest with
        | '-' :: r => (true, r)
        | '+' :: r => (false, r)
        | r => (false, r)
      let power := digits.takeWhile Char.isDigit
      if power.isEmpty then (none, cs)
      else
        let n : Int := digitsValue power
        (some (if negative then -n else n), digits.dropWhile Char.isDigit)
    else (none, cs)
  | [] => (none, cs)

/-- A number: whole without a fraction and an exponent, binary otherwise. -/
def readNumber (cs : List Char) : Option (Value × List Char) :=
  let (negative, body) := match cs with
    | '-' :: rest => (true, rest)
    | _ => (false, cs)
  let whole := match body with
    | '0' :: _ => ['0']
    | _ => body.takeWhile Char.isDigit
  if whole.isEmpty then none
  else
    let (fraction, rest) := readFraction (body.drop whole.length)
    let (exponent, rest) := readExponent rest
    match fraction, exponent with
    | none, none =>
      let n : Int := digitsValue whole
      some (.int (if negative then -n else n), rest)
    | _, _ =>
      let places := fraction.getD []
      some (.real (Binary64.ofDecimal negative (digitsValue (whole ++ places))
        (exponent.getD 0 - places.length)), rest)

/-- Drops a word from the front. -/
def dropWord (word : String) (cs : List Char) : Option (List Char) :=
  if word.toList.isPrefixOf cs then some (cs.drop word.length) else none

mutual

/-- A value at the front of the text. Every step of the reader consumes a character, so a bound of
the number of characters is never reached. -/
def readValue : Nat → List Char → Option (Value × List Char)
  | 0, _ => none
  | fuel + 1, cs =>
    match cs with
    | '\x22' :: rest => (readString [] rest).map fun (s, rest) => (.text s, rest)
    | '[' :: rest =>
      match skipSpace rest with
      | ']' :: rest => some (.list [], rest)
      | rest => readItems fuel [] rest
    | '\x7b' :: rest =>
      match skipSpace rest with
      | '\x7d' :: rest => some (.mapping [], rest)
      | rest => readFields fuel [] rest
    | 't' :: _ => (dropWord "true" cs).map fun rest => (.bool true, rest)
    | 'f' :: _ => (dropWord "false" cs).map fun rest => (.bool false, rest)
    | 'n' :: _ => (dropWord "null" cs).map fun rest => (.null, rest)
    | 'N' :: _ => (dropWord "NaN" cs).map fun rest => (.real .notNumber, rest)
    | 'I' :: _ => (dropWord "Infinity" cs).map fun rest => (.real (.infinite false), rest)
    | '-' :: 'I' :: _ => (dropWord "-Infinity" cs).map fun rest => (.real (.infinite true), rest)
    | _ => readNumber cs

/-- The items of a list, the first of which stands at the front. -/
def readItems : Nat → List Value → List Char → Option (Value × List Char)
  | 0, _, _ => none
  | fuel + 1, done, cs => do
    let (item, rest) ← readValue fuel cs
    match skipSpace rest with
    | ',' :: rest => readItems fuel (item :: done) (skipSpace rest)
    | ']' :: rest => some (.list (item :: done).reverse, rest)
    | _ => none

/-- The fields of a mapping, the first of which stands at the front. -/
def readFields : Nat → List (String × Value) → List Char → Option (Value × List Char)
  | 0, _, _ => none
  | fuel + 1, done, cs =>
    match cs with
    | '\x22' :: rest => do
      let (key, rest) ← readString [] rest
      match skipSpace rest with
      | ':' :: rest =>
        let (value, rest) ← readValue fuel (skipSpace rest)
        let done := Value.setField key value done
        match skipSpace rest with
        | ',' :: rest => readFields fuel done (skipSpace rest)
        | '\x7d' :: rest => some (.mapping done, rest)
        | _ => none
      | _ => none
    | _ => none

end

/-- The value of a JSON text, `none` when the text is malformed. -/
def read? (s : String) : Option Value :=
  let cs := s.toList
  match readValue (cs.length + 1) (skipSpace cs) with
  | some (value, rest) => if (skipSpace rest).isEmpty then some value else none
  | none => none

end RecordMapper.Json
