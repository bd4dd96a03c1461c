import SocketCensus.Settings.Toml.Moment
import SocketCensus.Number.Binary64

/-!
Values of a settings document, as they are written and as they are meant. A written table lists
its keys in order, whatever they are; it has a meaning only if no key is repeated. A table whose
first key is the reserved one means a date, and the keys after the first are then not looked at.
-/
namespace SocketCensus.Toml

inductive Value
  | text (s : String)
  | integer (n : Int)
  | float (x : Binary64)
  | boolean (b : Bool)
  | moment (m : Moment)
  | array (items : List Value)
  | table (fields : List (String × Value))

/-- A written value. A date is not read yet, and a table is extensible if it has no braces of
its own but comes from keys with periods between them. -/
inductive Term
  | text (s : String)
  | integer (n : Int)
  | float (x : Binary64)
  | boolean (b : Bool)
  | date (cs : List Char)
  | array (items : List Term)
  | table (extensible : Bool) (fields : List (String × Term))

def Value.ofFields? (fields : List (String × Value)) : Option Value :=
  let keys := fields.map Prod.fst
  if keys.eraseDups.length = keys.length then some (.table fields) else none

/-- The key by which a table tells that it stands for a date. -/
def dateKey : String := "$__toml_private_datetime"

namespace Term

def dateIn? : List (String × Term) → Option Moment
  | (_, .text s) :: _ => Moment.ofText? s.toList
  | _ => none

mutual

def value? : Term → Option Value
  | .text s => some (.text s)
  | .integer n => some (.integer n)
  | .float x => some (.float x)
  | .boolean b => some (.boolean b)
  | .date cs => (Moment.ofText? cs).map Value.moment
  | .array items => (items? items).map Value.array
  | .table _ fields =>
    if fields.head?.map Prod.fst = some dateKey then (dateIn? fields).map Value.moment
    else (fields? fields).bind Value.ofFields?

def items? : List Term → Option (List Value)
  | [] => some []
  | t :: rest => do return (← value? t) :: (← items? rest)

def fields? : List (String × Term) → Option (List (String × Value))
  | [] => some []
  | (key, t) :: rest => do return (key, ← value? t) :: (← fields? rest)

end

/-- Changes the extensible table under a key, which is made if nothing stands there. -/
def extend? (key : String) (change : List (String × Term) → Option (List (String × Term))) :
    List (String × Term) → Option (List (String × Term))
  | [] => (change []).map fun inner => [(key, .table true inner)]
  | (k, t) :: rest =>
    if k = key then
      match t with
      | .table true inner => (change inner).map fun inner => (k, .table true inner) :: rest
      | _ => none
    else (extend? key change rest).map ((k, t) :: ·)

/-- Writes a value under a path of keys, after all that has been written before. -/
def write? : (path : List String) → Term → List (String × Term) → Option (List (String × Term))
  | [], _, _ => none
  | [key], t, fields => some (fields ++ [(key, t)])
  | key :: rest, t, fields => extend? key (write? rest t) fields

end Term
end SocketCensus.Toml
