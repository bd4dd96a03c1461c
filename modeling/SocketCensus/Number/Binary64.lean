/-!
Binary floating point with 53 significant bits, as exact integers. A finite number is a
mantissa times a power of two, so rounding a decimal to a number and a number to an integer
are statements about naturals.
-/
namespace SocketCensus

/-- A number of the 64-bit binary format. A finite one is `mantissa * 2 ^ exponent` with its
sign, the mantissa below `2 ^ 53` and, unless the exponent is the least, at least `2 ^ 52`. -/
inductive Binary64
  | finite (negative : Bool) (mantissa : Nat) (exponent : Int)
  | infinite (negative : Bool)
  | nan
  deriving DecidableEq, Repr

namespace Binary64

def leastFull : Nat := 4503599627370496

def leastExponent : Int := -1074

def greatestExponent : Int := 971

/-- A quotient rounded to the nearest integer, a half to the even neighbour. -/
def roundHalfEven (num den : Nat) : Nat :=
  let q := num / den
  let twice := 2 * (num % den)
  if twice < den then q
  else if den < twice then q + 1
  else if q % 2 = 0 then q
  else q + 1

/-- `num / (den * 2 ^ e)` as a pair of naturals. -/
def scaled (num den : Nat) (e : Int) : Nat × Nat :=
  if e < 0 then (num * Nat.pow 2 (-e).toNat, den) else (num, den * Nat.pow 2 e.toNat)

/-- The number nearest to a positive quotient, a half to the even mantissa. -/
def ofRatio (negative : Bool) (num den : Nat) : Binary64 :=
  let guess : Int := max leastExponent ((Nat.log2 num : Int) - Nat.log2 den - 53)
  let (n, d) := scaled num den guess
  let e := if n / d < 2 * leastFull then guess else guess + 1
  let (n, d) := scaled num den e
  let m := roundHalfEven n d
  let (m, e) := if m = 2 * leastFull then (leastFull, e + 1) else (m, e)
  if greatestExponent < e then .infinite negative else .finite negative m e

/-- The number nearest to `digits * 10 ^ power`. Powers far outside the range of the format
are settled before anything is computed. -/
def ofDecimal (negative : Bool) (digits : Nat) (power : Int) : Binary64 :=
  if digits = 0 then .finite negative 0 leastExponent
  else
    let size : Int := (Nat.toDigits 10 digits).length
    if 320 < power + size then .infinite negative
    else if power + size < -340 then .finite negative 0 leastExponent
    else if power < 0 then ofRatio negative digits (Nat.pow 10 (-power).toNat)
    else ofRatio negative (digits * Nat.pow 10 power.toNat) 1

def isFinite : Binary64 → Bool
  | .finite .. => true
  | _ => false

/-- The nearest integer, a half away from zero, kept within `low` and `high`; zero for a
number that is none. -/
def toInt (low high : Int) : Binary64 → Int
  | .nan => 0
  | .infinite negative => if negative then low else high
  | .finite negative m e =>
    let size : Int :=
      if e < 0 then ((2 * m + Nat.pow 2 (-e).toNat) / Nat.pow 2 ((-e).toNat + 1) : Nat)
      else (m * Nat.pow 2 e.toNat : Nat)
    max low (min high (if negative then -size else size))

end Binary64
end SocketCensus
