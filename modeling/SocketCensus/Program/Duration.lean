/-!
Lengths of time with nanosecond resolution, and their text: the largest unit that gives at
least one, all decimals, no zeros at the end.
-/
namespace SocketCensus

structure Duration where
  nanoseconds : Nat
  deriving DecidableEq, Repr

namespace Duration

def ofMillis (n : Nat) : Duration := ⟨n * 1000000⟩

def ofSeconds (seconds nanoseconds : Nat) : Duration := ⟨seconds * 1000000000 + nanoseconds⟩

def decimalText (n places : Nat) : String :=
  let unit := Nat.pow 10 places
  let fraction := Nat.toDigits 10 (n % unit)
  let fraction := List.replicate (places - fraction.length) '0' ++ fraction
  let fraction := (fraction.reverse.dropWhile (· == '0')).reverse
  let whole := toString (n / unit)
  if n % unit = 0 then whole else whole ++ "." ++ String.ofList fraction

def text (d : Duration) : String :=
  let n := d.nanoseconds
  if 1000000000 ≤ n then decimalText n 9 ++ "s"
  else if 1000000 ≤ n then decimalText n 6 ++ "ms"
  else if 1000 ≤ n then decimalText n 3 ++ "µs"
  else toString n ++ "ns"

end Duration
end SocketCensus
