/-!
# Binary numbers of double precision

The numbers of the 64-bit binary format. A finite one is a sign, a mantissa and a power of two, so
that every question about it is one of whole numbers. What lies beyond the format is infinite, and
there is one value that is not a number.
-/
namespace RecordMapper.Number

/-- The quotient rounded to the nearest whole number, a half to the even neighbour. -/
def roundDiv (num den : Nat) : Nat :=
  let q := num / den
  let r := num % den
  if 2 * r < den then q
  else if den < 2 * r then q + 1
  else if q % 2 = 0 then q else q + 1

/-- The magnitude is `mantissa * 2 ^ exponent`. Zero keeps its sign. -/
structure Binary64.Finite where
  negative : Bool
  mantissa : Nat
  exponent : Int
  deriving DecidableEq, Repr

inductive Binary64 where
  | finite (x : Binary64.Finite)
  | infinite (negative : Bool)
  | notNumber
  deriving DecidableEq, Repr

namespace Binary64

/-- A magnitude `m * 2 ^ e` as a fraction. -/
def scaled (m : Nat) (e : Int) : Nat × Nat :=
  if 0 ≤ e then (m * Nat.pow 2 e.toNat, 1) else (m, Nat.pow 2 (-e).toNat)

/-- The power of two for which the quotient of a fraction by it has 53 binary digits, or the least
power of the format. -/
def exponentOf (num den : Nat) : Int :=
  let guess : Int := (num.log2 : Int) - (den.log2 : Int) - 52
  let (n, d) := scaled num (-guess)
  let exact := if n / (d * den) < Nat.pow 2 52 then guess - 1 else guess
  max exact (-1074)

namespace Finite

/-- The magnitude as a fraction. -/
def fraction (x : Finite) : Nat × Nat := scaled x.mantissa x.exponent

def isIntegral (x : Finite) : Bool := x.fraction.1 % x.fraction.2 == 0

/-- The whole number next to it in the direction of zero. -/
def truncated (x : Finite) : Int :=
  let n : Int := x.fraction.1 / x.fraction.2
  if x.negative then -n else n

def isZero (x : Finite) : Bool := x.mantissa == 0

/-- The numbers of the format end below the power of two with the exponent 1024. -/
def bounded (x : Finite) : Binary64 :=
  let (n, d) := x.fraction
  if Nat.pow 2 1024 * d ≤ n then .infinite x.negative else .finite x

end Finite

/-- The number nearest to a fraction, of two equally near ones the even one. -/
def nearest (negative : Bool) (num den : Nat) : Binary64 :=
  if num = 0 then .finite ⟨negative, 0, 0⟩
  else
    let e := exponentOf num den
    let (n, d) := scaled num (-e)
    Finite.bounded ⟨negative, roundDiv n (d * den), e⟩

/-- The number nearest to `digits * 10 ^ power`. Powers far outside the format are brought back to
its surroundings first, which leaves them outside. -/
def ofDecimal (negative : Bool) (digits : Nat) (power : Int) : Binary64 :=
  let size : Int := (Nat.toDigits 10 digits).length + power
  let power := if 400 < size then power - (size - 400) else power
  if size < -400 then .finite ⟨negative, 0, 0⟩
  else if 0 ≤ power then nearest negative (digits * Nat.pow 10 power.toNat) 1
  else nearest negative digits (Nat.pow 10 (-power).toNat)

def ofInt (n : Int) : Binary64 := nearest (n < 0) n.natAbs 1

def isZero : Binary64 → Bool
  | finite x => x.isZero
  | _ => false

end Binary64

end RecordMapper.Number
