import SocketCensus.Number.Decimal

/-!
Dates and times of a settings document: a date, a time of day, or both with an optional offset.
They are read strictly, digit by digit, and written in one form.
-/
namespace SocketCensus.Toml

structure Date where
  year : Nat
  month : Nat
  day : Nat

structure Time where
  hour : Nat
  minute : Nat
  second : Nat
  nanosecond : Nat

inductive Offset
  | universal
  | custom (hours : Int) (minutes : Nat)

structure Moment where
  date : Option Date
  time : Option Time
  offset : Option Offset

namespace Moment

abbrev Reader := StateT (List Char) Option

namespace Reader

def char (expected : Char) : Reader Unit := fun
  | c :: rest => if c = expected then some ((), rest) else none
  | [] => none

def digit : Reader Nat := fun
  | c :: rest => (Decimal.digit? c).map fun d => (d, rest)
  | [] => none

def twoDigits : Reader Nat := do
  let tens ← digit
  return 10 * tens + (← digit)

def peek : Reader (Option Char) := fun cs => some (cs.head?, cs)

def date : Reader Date := do
  let century ← twoDigits
  let year := 100 * century + (← twoDigits)
  char '-'
  let month ← twoDigits
  char '-'
  let day ← twoDigits
  guard (1 ≤ month ∧ month ≤ 12 ∧ 1 ≤ day ∧ day ≤ 31)
  return ⟨year, month, day⟩

/-- The digits after the point; beyond the ninth they do not count. -/
def fraction : Reader Nat := fun cs =>
  let digits := cs.takeWhile Decimal.isDigit
  if digits = [] then none
  else
    let kept := digits.take 9
    some (Decimal.value kept * Nat.pow 10 (9 - kept.length), cs.drop digits.length)

def time : Reader Time := do
  let hour ← twoDigits
  char ':'
  let minute ← twoDigits
  char ':'
  let second ← twoDigits
  let nanosecond ← if (← peek) = some '.' then char '.' *> fraction else pure 0
  guard (hour ≤ 24 ∧ minute ≤ 59 ∧ second ≤ 59)
  return ⟨hour, minute, second, nanosecond⟩

def offset : Reader (Option Offset) := do
  match ← peek with
  | none => return none
  | some 'Z' => char 'Z'; return some .universal
  | some 'z' => char 'z'; return some .universal
  | some sign =>
    guard (sign = '+' ∨ sign = '-')
    char sign
    let hours ← twoDigits
    char ':'
    let minutes ← twoDigits
    return some (.custom (if sign = '-' then -(hours : Int) else hours) minutes)

def isSeparator (c : Char) : Bool := c == 'T' || c == 't' || c == ' '

/-- A colon in third place tells a time of day from a date. -/
def moment : Reader Moment := fun cs =>
  let reader : Reader Moment := do
    if cs[2]? = some ':' then return ⟨none, some (← time), none⟩
    let date ← date
    match ← peek with
    | some c =>
      guard (isSeparator c)
      char c
      let time ← time
      return ⟨some date, some time, ← offset⟩
    | none => return ⟨some date, none, none⟩
  reader cs

end Reader

def ofText? (cs : List Char) : Option Moment :=
  match Reader.moment cs with
  | some (m, []) => some m
  | _ => none

def padded (width n : Nat) : String :=
  let digits := Nat.toDigits 10 n
  String.ofList (List.replicate (width - digits.length) '0' ++ digits)

def Date.text (d : Date) : String := s!"{padded 4 d.year}-{padded 2 d.month}-{padded 2 d.day}"

def Time.text (t : Time) : String :=
  let fraction := ((padded 9 t.nanosecond).toList.reverse.dropWhile (· == '0')).reverse
  s!"{padded 2 t.hour}:{padded 2 t.minute}:{padded 2 t.second}" ++
    if t.nanosecond = 0 then "" else "." ++ String.ofList fraction

def Offset.text : Offset → String
  | .universal => "Z"
  | .custom hours minutes =>
    (if hours < 0 then "-" else "+") ++ padded 2 hours.natAbs ++ ":" ++ padded 2 minutes

/-- The text of a moment; a time after a date is marked by a letter. -/
def text (m : Moment) : String :=
  let date := (m.date.map Date.text).getD ""
  let time := (m.time.map Time.text).getD ""
  let mark := if m.date.isSome && m.time.isSome then "T" else ""
  date ++ mark ++ time ++ (m.offset.map Offset.text).getD ""

end Moment
end SocketCensus.Toml
