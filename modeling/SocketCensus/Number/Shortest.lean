import SocketCensus.Number.Binary64

/-!
The shortest decimal of a floating point number: of all decimals that round to the number,
one with the fewest digits, and among those the one nearest to it. Written positionally,
without an exponent, however large or small the number is.
-/
namespace SocketCensus.Shortest

structure Digits where
  digits : Nat
  power : Int

/-- The reals that round to a number, in quarters of its last place. The ends belong to the
interval iff the mantissa is even. -/
structure Interval where
  low : Nat
  middle : Nat
  high : Nat
  closed : Bool
  unit : Int

/-- Below a power of two the next number is half as far away as above it. -/
def interval (m : Nat) (e : Int) : Interval :=
  let gap := if m = Binary64.leastFull ∧ Binary64.leastExponent < e then 1 else 2
  ⟨4 * m - gap, 4 * m, 4 * m + 2, m % 2 = 0, e - 2⟩

def factors (unit power : Int) : Nat × Nat :=
  (Nat.pow 2 unit.toNat * Nat.pow 10 (-power).toNat, Nat.pow 10 power.toNat * Nat.pow 2 (-unit).toNat)

def magnitude (i : Interval) : Int :=
  let (u, g) := factors i.unit (-350)
  (Nat.toDigits 10 (i.middle * u / g)).length - 350

/-- The nearest multiple of `10 ^ power` to the number, if it lies in the interval; of two
neighbours equally near, the larger. -/
def onGrid? (i : Interval) (power : Int) : Option Nat :=
  let (u, g) := factors i.unit power
  let below := i.middle * u / g
  let inside (c : Nat) : Bool :=
    if i.closed then i.low * u ≤ c * g && c * g ≤ i.high * u
    else i.low * u < c * g && c * g < i.high * u
  let nearest := if 2 * (i.middle * u % g) < g then below else below + 1
  let other := if nearest = below then below + 1 else below
  if inside nearest then some nearest
  else if inside other then some other
  else none

/-- Tries ever finer grids; the first hit has the fewest digits. -/
def search (i : Interval) (top : Int) : (finer : Nat) → (count : Nat) → Digits
  | 0, count => ⟨i.middle, top - count⟩
  | finer + 1, count =>
    match onGrid? i (top - count) with
    | some c => ⟨c, top - count⟩
    | none => search i top finer (count + 1)

/-- Seventeen digits are always enough. -/
def shortest (m : Nat) (e : Int) : Digits :=
  let i := interval m e
  search i (magnitude i) 17 1

/-- Digits with the point put where the power says, and no zeros after the last digit of
a fraction. -/
def positional (d : Digits) : List Char :=
  let written := Nat.toDigits 10 d.digits
  if 0 ≤ d.power then written ++ List.replicate d.power.toNat '0'
  else
    let places := (-d.power).toNat
    let whole := written.take (written.length - places)
    let fraction := List.replicate (places - written.length) '0' ++ written.drop (written.length - places)
    let fraction := (fraction.reverse.dropWhile (· == '0')).reverse
    (if whole = [] then ['0'] else whole) ++ (if fraction = [] then [] else '.' :: fraction)

def text : Binary64 → String
  | .nan => "NaN"
  | .infinite negative => if negative then "-inf" else "inf"
  | .finite negative m e =>
    let body := if m = 0 then ['0'] else positional (shortest m e)
    String.ofList (if negative then '-' :: body else body)

end SocketCensus.Shortest
