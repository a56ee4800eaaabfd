import RecordMapper.Number.Binary64
import RecordMapper.Text.Lines

/-!
# Numbers in decimal

The ways numbers are written: whole numbers with a comma between groups of three digits,
binary numbers with a fixed number of places, and binary numbers with the fewest digits that read
back as the same number. Infinities, and what is not a number, are written as words.
-/
namespace RecordMapper.Number

open RecordMapper.Text

/-- Decimal digits with a comma before every group of three from the right; the digits come last
first. -/
def commaGroups : List Char → List Char
  | a :: b :: c :: d :: rest => a :: b :: c :: ',' :: commaGroups (d :: rest)
  | digits => digits

/-- A whole number with its digits in groups of three. -/
def grouped (n : Int) : String :=
  let digits := String.ofList (commaGroups (Nat.toDigits 10 n.natAbs).reverse).reverse
  if n < 0 then "-" ++ digits else digits

namespace Binary64.Finite

/-- The exact value rounded to a number of decimal places, a half to the even neighbour. -/
def fixed (places : Nat) (x : Finite) : String :=
  let (num, den) := x.fraction
  let digits := Nat.toDigits 10 (roundDiv (num * Nat.pow 10 places) den)
  let digits := List.replicate (places + 1 - digits.length) '0' ++ digits
  let whole := digits.take (digits.length - places)
  let tail := digits.drop (digits.length - places)
  String.ofList ((if x.negative then ['-'] else []) ++ whole ++
    (if places = 0 then [] else '.' :: tail))

/-- Whether `digits * 10 ^ power` is read as the magnitude of `x`. -/
def readsBack (x : Finite) (digits : Nat) (power : Int) : Bool :=
  match ofDecimal x.negative digits power with
  | finite y =>
    let (a, b) := x.fraction
    let (c, d) := y.fraction
    a * d == c * b
  | _ => false

/-- The candidate with `count` digits: of the two neighbours of `x` on the grid of numbers with
that many digits, the nearer one that reads back. -/
def candidate (x : Finite) (magnitude : Int) (count : Nat) : Option (Nat × Int) :=
  let power := magnitude - count
  let (num, den) := x.fraction
  let (n, d) := if 0 ≤ power then (num, den * Nat.pow 10 power.toNat)
    else (num * Nat.pow 10 (-power).toNat, den)
  let nearer := roundDiv n d
  let other := if n / d < nearer then n / d else n / d + 1
  if x.readsBack nearer power then some (nearer, power)
  else if x.readsBack other power then some (other, power)
  else none

/-- The power of ten just above a positive fraction: the number of its digits before the point. -/
def decimalMagnitude (num den : Nat) : Int :=
  if den ≤ num then (Nat.toDigits 10 (num / den)).length
  else
    let zeros := (Nat.toDigits 10 (den / num)).length
    if den ≤ num * Nat.pow 10 (zeros - 1) then 2 - (zeros : Int) else 1 - (zeros : Int)

/-- Digits without their last zeros, together with the power of ten of the last digit. -/
def dropZeros (digits : List Char) (power : Int) : List Char × Int :=
  let kept := (digits.reverse.dropWhile (· = '0')).reverse
  (kept, power + ((digits.length - kept.length : Nat) : Int))

/-- The fewest digits that read back, the nearest among those, and the power of ten of the last. -/
def shortestDigits (x : Finite) : List Char × Int :=
  let (num, den) := x.fraction
  let magnitude := decimalMagnitude num den
  match (List.range' 1 17).findSome? (x.candidate magnitude) with
  | some (digits, power) => dropZeros (Nat.toDigits 10 digits) power
  | none => (['0'], 0)

/-- The shortest text: positional from `1e-4` up to sixteen digits before the point, otherwise
with an exponent of at least two digits. -/
def shortest (x : Finite) : String :=
  let sign := if x.negative then ['-'] else []
  if x.isZero then String.ofList (sign ++ ['0', '.', '0'])
  else
    let (digits, power) := x.shortestDigits
    let point : Int := digits.length + power
    if -3 ≤ point && point ≤ 16 then
      if point ≤ 0 then
        String.ofList (sign ++ ['0', '.'] ++ List.replicate (-point).toNat '0' ++ digits)
      else
        let whole := digits.take point.toNat
        let tail := digits.drop point.toNat
        String.ofList (sign ++ whole ++ List.replicate (point.toNat - whole.length) '0' ++ ['.'] ++
          (if tail.isEmpty then ['0'] else tail))
    else
      let exponent := point - 1
      let size := Nat.toDigits 10 exponent.natAbs
      String.ofList (sign ++ digits.take 1 ++
        (if digits.length = 1 then [] else '.' :: digits.drop 1) ++
        ['e', if exponent < 0 then '-' else '+'] ++
        List.replicate (2 - size.length) '0' ++ size)

end Binary64.Finite

namespace Binary64

/-- The words for an infinity and for what is not a number. -/
structure Words where
  infinite : String
  notNumber : String

/-- A finite number as a text, and any other as a word with its sign. -/
def write (words : Words) (text : Finite → String) : Binary64 → String
  | finite x => text x
  | infinite negative => if negative then "-" ++ words.infinite else words.infinite
  | notNumber => words.notNumber

/-- The number with a fixed number of decimal places. -/
def fixed (places : Nat) : Binary64 → String := write ⟨"inf", "nan"⟩ (Finite.fixed places)

/-- The shortest text that reads back as the number. -/
def shortest : Binary64 → String := write ⟨"inf", "nan"⟩ Finite.shortest

/-- The number as data formats write it. -/
def literal : Binary64 → String := write ⟨"Infinity", "NaN"⟩ Finite.shortest

end Binary64

end RecordMapper.Number
