import SocketCensus.Number.Shortest
import SocketCensus.Settings.Node
import SocketCensus.Text.Quoted

/-!
Conversion of raw settings. An integer may be written as a number, a truth value or a text, and
a text may be written as any scalar; what cannot be converted is named in the error.
-/
namespace SocketCensus.Settings

inductive Setting
  | text (s : String)
  | count (n : Nat)
  deriving DecidableEq, Repr

structure TypeError where
  found : String
  expected : String
  key : String
  origin : Option String
  deriving DecidableEq, Repr

def TypeError.message (e : TypeError) : String :=
  s!"invalid type: {e.found}, expected {e.expected} for key `{e.key}`" ++
    match e.origin with
    | some origin => s!" in {origin}"
    | none => ""

/-- What an error calls a raw value that has no text of its own. -/
def foundText : Node → String
  | .array .. => "sequence"
  | .table .. => "map"
  | .scalar _ (.text s) => s!"string {Text.quote s}"
  | .scalar _ _ => "unit value"

def Node.origin : Node → Option String
  | .array origin _ => origin
  | .table origin _ => origin
  | .scalar origin _ => origin

def lowestInt : Int := -(Decimal.largest : Int) - 1

def highestInt : Int := Decimal.largest

def lower (s : String) : String := String.ofList (s.toList.map Char.toLower)

def trueWords : List String := ["true", "on", "yes"]

def falseWords : List String := ["false", "off", "no"]

/-- The integer that a text means: a truth word in any case, or a decimal number. -/
def textInt? (s : String) : Option Int :=
  if trueWords.contains (lower s) then some 1
  else if falseWords.contains (lower s) then some 0
  else (Decimal.readSigned s.toList).toOption

def toInt? : Node → Option Int
  | .scalar _ (.integer n) => some n
  | .scalar _ (.boolean b) => some (if b then 1 else 0)
  | .scalar _ (.float x) => some (x.toInt lowestInt highestInt)
  | .scalar _ (.text s) => textInt? s
  | _ => none

def toText? : Node → Option String
  | .scalar _ (.text s) => some s
  | .scalar _ (.boolean b) => some (if b then "true" else "false")
  | .scalar _ (.integer n) => some (toString n)
  | .scalar _ (.float x) => some (Shortest.text x)
  | _ => none

def wordCount : Int := 18446744073709551616

/-- An integer setting as 64 bits without a sign; a negative number wraps. -/
def readCount (key : String) (node : Node) : Except TypeError Nat :=
  match toInt? node with
  | some n => .ok (n % wordCount).toNat
  | none => .error ⟨foundText node, "an integer", key, node.origin⟩

def readText (key : String) (node : Node) : Except TypeError String :=
  match toText? node with
  | some s => .ok s
  | none => .error ⟨foundText node, "a string", key, node.origin⟩

end SocketCensus.Settings
