import SocketCensus.Settings.Toml.Document

/-!
Raw settings: a tree of values that remember where they come from. Setting a table under a key
merges it into what is there key by key, while any other value replaces it; where a table or an
array is needed and something else stands, that is replaced by an empty one of no origin.
-/
namespace SocketCensus.Settings

inductive Scalar
  | absent
  | integer (n : Int)
  | float (x : Binary64)
  | boolean (b : Bool)
  | text (s : String)
  deriving DecidableEq, Repr

/-- A raw value with its origin, which is where an error message will say that it stands. -/
inductive Node
  | scalar (origin : Option String) (value : Scalar)
  | array (origin : Option String) (items : List Node)
  | table (origin : Option String) (fields : List (String × Node))

abbrev Fields := List (String × Node)

namespace Fields

def put (key : String) (value : Node) : Fields → Fields
  | [] => [(key, value)]
  | (k, v) :: rest => if k = key then (key, value) :: rest else (k, v) :: put key value rest

def putAll (fields start : Fields) : Fields := fields.foldl (fun table f => put f.1 f.2 table) start

def get? (key : String) : Fields → Option Node
  | [] => none
  | (k, v) :: rest => if k = key then some v else get? key rest

@[simp] theorem get?_put_self (key : String) (value : Node) (fields : Fields) :
    get? key (put key value fields) = some value := by
  induction fields with
  | nil => simp [put, get?]
  | cons f rest ih =>
    by_cases h : f.1 = key
    · simp [put, get?, h]
    · simp [put, get?, h, ih]

theorem get?_put_of_ne {key other : String} (value : Node) (fields : Fields)
    (h : key ≠ other) : get? other (put key value fields) = get? other fields := by
  induction fields with
  | nil => simp [put, get?, h]
  | cons f rest ih =>
    by_cases hk : f.1 = key
    · simp [put, get?, hk, h]
    · simp [put, get?, hk, ih]

end Fields

namespace Node

def absent : Node := .scalar none .absent

def emptyTable : Node := .table none []

def text (origin : Option String) (s : String) : Node := .scalar origin (.text s)

def get? : Node → String → Option Node
  | .table _ fields, key => Fields.get? key fields
  | _, _ => none

/-- Puts a value under a key of the node, which is made a table if it is none. -/
def put (node : Node) (key : String) (value : Node) : Node :=
  match node with
  | .table origin fields => .table origin (Fields.put key value fields)
  | _ => .table none (Fields.put key value [])

mutual

def merge : (value : Node) → (old : Option Node) → Node
  | .table _ fields, old => mergeFields fields (old.getD emptyTable)
  | .array origin items, _ => .array origin items
  | .scalar origin value, _ => .scalar origin value

def mergeFields : (incoming : Fields) → Node → Node
  | [], node => node
  | (key, value) :: rest, node => mergeFields rest (node.put key (merge value (node.get? key)))

end

def set (node : Node) (key : String) (value : Node) : Node := node.put key (merge value (node.get? key))

/-- The elements of an array; another value has none. -/
def items : Node → List Node
  | .array _ items => items
  | _ => []

/-- The place that an index means in an array of a given length, where a negative one counts from the
end. There is none in front of the first element, and none for which the array has no room. -/
def placeOf? (room length : Nat) (index : Int) : Option Nat :=
  let place := if 0 ≤ index then index else length + index
  if 0 ≤ place ∧ place < max room length then some place.toNat else none

/-- Changes one element of the node, which is made an array if it is none and is filled up to
the index with absent values. -/
def alterItem? (room : Nat) (node : Node) (index : Int) (f : Node → Option Node) : Option Node := do
  let place ← placeOf? room node.items.length index
  let item ← f (node.items[place]?.getD absent)
  let filled := node.items ++ List.replicate (place + 1 - node.items.length) absent
  let origin := match node with
    | .array origin _ => origin
    | _ => none
  return .array origin (filled.set place item)

end Node

mutual

/-- The raw form of a document's value. Dates are known by their texts. -/
def nodeOf (origin : Option String) : Toml.Value → Node
  | .text s => .scalar origin (.text s)
  | .integer n => .scalar origin (.integer n)
  | .float x => .scalar origin (.float x)
  | .boolean b => .scalar origin (.boolean b)
  | .moment m => .scalar origin (.text m.text)
  | .array items => .array origin (nodesOf origin items)
  | .table fields => .table origin (fieldsOf origin fields)

def nodesOf (origin : Option String) : List Toml.Value → List Node
  | [] => []
  | value :: rest => nodeOf origin value :: nodesOf origin rest

def fieldsOf (origin : Option String) : List (String × Toml.Value) → Fields
  | [] => []
  | (key, value) :: rest => (key, nodeOf origin value) :: fieldsOf origin rest

end

end SocketCensus.Settings
