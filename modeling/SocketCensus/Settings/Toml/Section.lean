import SocketCensus.Settings.Toml.Term

/-!
Sections of a settings document, each a header with the fields below it. The table of a
document is assembled from all sections at once; a key that is given twice, or that leads
through a value that is no table, is refused. A table that stands for a date leaves the sections
below it unread, and then only a later element of the same array can read them.
-/
namespace SocketCensus.Toml

/-- A header, plain or for one more element of an array, with the fields below it. -/
structure Section where
  path : List String
  isArray : Bool
  fields : List (String × Term)

namespace Section

def below? (key : String) (s : Section) : Option Section :=
  match s.path with
  | first :: rest => if first = key then some { s with path := rest } else none
  | [] => none

def heads (sections : List Section) : List String :=
  (sections.filterMap fun s => s.path.head?).eraseDups

def firstKey? : List Section → Option String
  | [] => none
  | s :: rest =>
    match s.path, s.fields with
    | key :: _, _ => some key
    | [], (key, _) :: _ => some key
    | [], [] => (heads rest).head?

/-- The sections of an array, one group per element: each element begins with a header of the
array itself. -/
def elements : List Section → List (List Section)
  | [] => []
  | s :: rest =>
    match elements rest with
    | [] => [[s]]
    | group :: groups =>
      match group with
      | [] => [s] :: groups
      | next :: _ =>
        if next.isArray && next.path.isEmpty then [s] :: group :: groups
        else (s :: group) :: groups

/-- The sections of an element. The header that opens it counts as the header of a table, and
after it come the sections that the elements before have left unread. -/
def openElement (unread : List Section) : List Section → List Section
  | [] => unread
  | s :: rest => { s with isArray := false } :: unread ++ rest

def items? (read? : List Section → Option (Value × List Section)) :
    (unread : List Section) → List (List Section) → Option (List Value)
  | [], [] => some []
  | _ :: _, [] => none
  | unread, element :: rest => do
    let (value, unread) ← read? (openElement unread element)
    return value :: (← items? read? unread rest)

/-- The date that sections stand for, with the sections that stay unread. -/
def dateOf? : List Section → Option (Value × List Section)
  | ⟨[], _, fields⟩ :: rest => (Term.dateIn? fields).map fun m => (.moment m, rest)
  | _ => none

def valueOf? (read? : List Section → Option (Value × List Section)) (group : List Section) :
    Option Value :=
  let isArray := match group with
    | s :: _ => s.isArray && s.path.isEmpty
    | [] => false
  if isArray then (items? read? [] (elements group)).map Value.array
  else
    match read? group with
    | some (value, []) => some value
    | _ => none

/-- The fields directly below a header of the table, which must be its only one. -/
def ownFields? (sections : List Section) : Option (List (String × Value)) :=
  match sections.filter fun s => s.path.isEmpty with
  | [] => some []
  | [s] => if s.isArray then none else Term.fields? s.fields
  | _ => none

/-- The table that sections make, for paths up to a given length, or the date that it stands
for with the sections that stay unread. -/
def tableOf? : (depth : Nat) → List Section → Option (Value × List Section)
  | 0, _ => none
  | depth + 1, sections =>
    if firstKey? sections = some dateKey then dateOf? sections
    else do
      let own ← ownFields? sections
      let below ← (heads sections).mapM fun key => do
        return (key, ← valueOf? (tableOf? depth) (sections.filterMap (below? key)))
      return (← Value.ofFields? (own ++ below), [])

/-- What a whole document means; sections after a date do not count. -/
def value? (sections : List Section) : Option Value :=
  (tableOf? ((sections.map fun s => s.path.length).foldl max 0 + 1) sections).map Prod.fst

end Section
end SocketCensus.Toml
