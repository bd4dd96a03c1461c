import SocketCensus.Number.Binary64
import SocketCensus.Number.Decimal
import SocketCensus.Settings.Toml.Token

/-!
Numbers of a settings document. Digits may be grouped by single underscores between them, a
number in base ten has no zeros in front, and an integer fits into 64 signed bits.
-/
namespace SocketCensus.Toml

/-- How far a run of digits has come: whether nothing was read yet, whether it began with a
zero, and whether an underscore came last. -/
structure Run where
  opening : Bool
  zero : Bool
  gap : Bool

namespace Run

def start : Run := ⟨true, false, false⟩

def isDigit (radix : Nat) (c : Char) : Bool :=
  match Token.hexValue? c with
  | some d => d < radix
  | none => false

/-- The digits at the start of a text, without underscores, and the text after them. -/
def split? (radix : Nat) (zeros : Bool) (run : Run) : List Char → Option (List Char × List Char)
  | [] => if run.opening || run.gap then none else some ([], [])
  | c :: rest =>
    if c = '0' ∧ run.opening then
      (split? radix zeros { run with opening := false, zero := true } rest).map fun r => (c :: r.1, r.2)
    else if isDigit radix c then
      if !run.opening && run.zero && !zeros then none
      else
        (split? radix zeros { run with opening := false, gap := false } rest).map fun r =>
          (c :: r.1, r.2)
    else if c = '_' ∧ !run.opening ∧ !run.gap then split? radix zeros { run with gap := true } rest
    else if run.opening || run.gap then none
    else some ([], c :: rest)

end Run

def valueIn (radix : Nat) (digits : List Char) : Nat :=
  digits.foldl (fun n c => radix * n + (Token.hexValue? c).getD 0) 0

def splitSign (cs : List Char) : Bool × List Char :=
  match cs with
  | '-' :: rest => (true, rest)
  | '+' :: rest => (false, rest)
  | _ => (false, cs)

def inRange? (n : Int) : Option Int :=
  if -(Decimal.largest : Int) - 1 ≤ n ∧ n ≤ Decimal.largest then some n else none

def integer? (cs : List Char) : Option Int := do
  let (negative, body) := splitSign cs
  let (digits, rest) ← Run.split? 10 false .start body
  if rest ≠ [] then none
  let n := valueIn 10 digits
  inRange? (if negative then -(n : Int) else n)

/-- An integer in another base, without a sign; zeros in front are allowed. -/
def radixInteger? (radix : Nat) (cs : List Char) : Option Int := do
  let (digits, rest) ← Run.split? radix true .start cs
  if rest ≠ [] then none
  inRange? (valueIn radix digits)

def isExponentMark (c : Char) : Bool := c == 'e' || c == 'E'

structure Float where
  negative : Bool
  integral : List Char
  fraction : List Char
  exponentNegative : Bool
  exponent : List Char

/-- The nearest number of the binary format; one that is out of range is refused. -/
def Float.toBinary64? (f : Float) : Option Binary64 :=
  let digits := f.integral ++ f.fraction
  let power : Int := valueIn 10 f.exponent
  let x := Binary64.ofDecimal f.negative (valueIn 10 digits)
    ((if f.exponentNegative then -power else power) - f.fraction.length)
  if x.isFinite then some x else none

/-- What follows the digits of a number: nothing, an exponent, or the mark of an exponent whose
digits are still to come. -/
inductive Tail
  | complete
  | exponent (negative : Bool) (digits : List Char)
  | mark

def tail? (cs : List Char) : Option Tail :=
  match cs with
  | [] => some .complete
  | c :: rest =>
    if !isExponentMark c then none
    else if rest = [] then some .mark
    else do
      let (negative, body) := splitSign rest
      let (digits, after) ← Run.split? 10 true .start body
      if after ≠ [] then none else some (.exponent negative digits)

def mantissa? (whole : List Char) (fraction : Option (List Char)) : Option (Float × Tail) := do
  let (negative, body) := splitSign whole
  let (integral, rest) ← Run.split? 10 false .start body
  match fraction with
  | none => return (⟨negative, integral, [], false, []⟩, ← tail? rest)
  | some after =>
    if rest ≠ [] then none
    let (fraction, rest) ← Run.split? 10 true .start after
    return (⟨negative, integral, fraction, false, []⟩, ← tail? rest)

def exponentDigits? (cs : List Char) : Option (List Char) := do
  let (digits, rest) ← Run.split? 10 true .start cs
  if rest ≠ [] then none else some digits

end SocketCensus.Toml
