/-!
Whole numbers in decimal notation. Reading goes from the left and stops at the first thing
that is wrong, so that of two faults the one further left is reported.
-/
namespace SocketCensus.Decimal

def digit? (c : Char) : Option Nat :=
  if '0' ≤ c ∧ c ≤ '9' then some (c.toNat - '0'.toNat) else none

def isDigit (c : Char) : Bool := (digit? c).isSome

/-- The number written by a list of digits; other characters count as zeros. -/
def valueFrom (start : Nat) (cs : List Char) : Nat :=
  cs.foldl (fun n c => 10 * n + (digit? c).getD 0) start

def value (cs : List Char) : Nat := valueFrom 0 cs

inductive Fault
  | empty
  | notDigit
  | tooLarge
  | tooSmall
  deriving DecidableEq, Repr

def Fault.message : Fault → String
  | .empty => "cannot parse integer from empty string"
  | .notDigit => "invalid digit found in string"
  | .tooLarge => "number too large to fit in target type"
  | .tooSmall => "number too small to fit in target type"

/-- Reads digits on top of a number already read; `overflow` is reported at the digit that
takes the number over the bound. -/
def readBounded (bound : Nat) (overflow : Fault) : Nat → List Char → Except Fault Nat
  | n, [] => .ok n
  | n, c :: rest =>
    match digit? c with
    | none => .error .notDigit
    | some d =>
      if 10 * n + d ≤ bound then readBounded bound overflow (10 * n + d) rest
      else .error overflow

def largest : Nat := 9223372036854775807

def readSigned : List Char → Except Fault Int
  | [] => .error .empty
  | '+' :: [] => .error .notDigit
  | '-' :: [] => .error .notDigit
  | '+' :: digits => (readBounded largest .tooLarge 0 digits).map Int.ofNat
  | '-' :: digits => (readBounded (largest + 1) .tooSmall 0 digits).map fun n => -Int.ofNat n
  | digits => (readBounded largest .tooLarge 0 digits).map Int.ofNat

end SocketCensus.Decimal
