import SocketCensus.Settings.Node

/-!
Names of settings. A name such as `a.b[2]` leads through tables and arrays; a name that cannot
be read in this way stands for itself.
-/
namespace SocketCensus.Settings

inductive PathStep
  | key (name : String)
  | index (i : Int)
  deriving DecidableEq, Repr

abbrev KeyPath := List PathStep

namespace KeyPath

def isNameChar (c : Char) : Bool := c.isAlphanum || c == ' ' || c == '_' || c == '-'

def name? (cs : List Char) : Option (String × List Char) :=
  match cs.takeWhile isNameChar with
  | [] => none
  | name => some (String.ofList name, cs.dropWhile isNameChar)

def skipBlanks (cs : List Char) : List Char := cs.dropWhile Toml.Token.isBlankChar

def integer? (cs : List Char) : Option (Int × List Char) :=
  let (negative, body) : Bool × List Char := match cs with
    | '-' :: rest => (true, rest)
    | _ => (false, cs)
  let digits := body.takeWhile Decimal.isDigit
  if digits = [] then none
  else
    match Decimal.readSigned (if negative then '-' :: digits else digits) with
    | .ok n => some (n, body.drop digits.length)
    | .error _ => none

def steps? : (fuel : Nat) → List Char → Option KeyPath
  | _, [] => some []
  | 0, _ :: _ => none
  | fuel + 1, c :: rest =>
    if c = '.' then
      match name? rest with
      | some (name, rest) => (steps? fuel rest).map (.key name :: ·)
      | none => none
    else if c = '[' then
      match integer? (skipBlanks rest) with
      | some (i, rest) =>
        match skipBlanks rest with
        | ']' :: rest => (steps? fuel rest).map (.index i :: ·)
        | _ => none
      | none => none
    else none

def read? (s : String) : Option KeyPath :=
  match name? s.toList with
  | some (name, rest) => (steps? rest.length rest).map (.key name :: ·)
  | none => none

def ofName (s : String) : KeyPath := (read? s).getD [.key s]

end KeyPath

/-- Sets a value at the end of a path. Under a key it is merged, in an array it replaces the
element. There is no result if an index has no place. -/
def Node.setAt? (room : Nat) (value : Node) : KeyPath → Node → Option Node
  | [], node => some node
  | [.key name], node => some (node.set name value)
  | [.index i], node => node.alterItem? room i fun _ => some value
  | .key name :: rest, node =>
    (setAt? room value rest ((node.get? name).getD Node.absent)).map (node.put name)
  | .index i :: rest, node => node.alterItem? room i (setAt? room value rest)

end SocketCensus.Settings
