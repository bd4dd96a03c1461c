/-!
Files below a working directory, and files elsewhere by their absolute paths. A path is walked
piece by piece, and every piece, also an empty one after a slash at the end, needs a directory
to start from.
-/
namespace SocketCensus

/-- Files by their places, with their contents, and directories, which have none. -/
abbrev Tree (α : Type) := List (List String × Option α)

structure Folder (α : Type) where
  here : Tree α
  elsewhere : Tree α

namespace Folder

def piecesOf : List Char → List (List Char)
  | [] => [[]]
  | c :: rest =>
    if c = '/' then [] :: piecesOf rest
    else match piecesOf rest with
      | [] => [[c]]
      | first :: others => (c :: first) :: others

def pieces (path : String) : List String := (piecesOf path.toList).map String.ofList

def isIdle (piece : String) : Bool := piece == "" || piece == "."

def names (path : String) : List String := (pieces path).filter fun piece => !isIdle piece

def isAbsolute (path : String) : Bool := path.toList.head? == some '/'

def plain (path : String) : String :=
  (if isAbsolute path then "/" else "") ++ "/".intercalate (names path)

/-- The places that a path passes from a given one on, where a name leads one step down and two
periods one step up. -/
def passed : (place : List String) → List String → List (List String)
  | _, [] => []
  | place, name :: rest =>
    let next := if name == ".." then place.dropLast else place ++ [name]
    next :: passed next rest

/-- What an item at a path adds to a tree: itself, and the directories on the way to it. -/
def grow {α : Type} (path : String) (content : Option α) : Tree α :=
  match (passed [] (names path)).reverse with
  | [] => []
  | place :: before => before.reverse.map (·, none) ++ [(place, content)]

def ofList {α : Type} (items : List (String × Option α)) : Folder α :=
  let (above, below) := items.partition fun i => isAbsolute i.1
  ⟨below.flatMap fun i => grow i.1 i.2, above.flatMap fun i => grow i.1 i.2⟩

end Folder

namespace Tree

variable {α β : Type}

def isDirectory (t : Tree α) (place : List String) : Bool :=
  place.isEmpty || t.any fun item => item.1 == place && item.2.isNone

def directories (t : Tree α) : Tree β :=
  t.filterMap fun item => if item.2.isNone then some (item.1, none) else none

/-- Follows the pieces of a path; a step up from the starting point leads nowhere. -/
def walk (t : Tree α) : (place : List String) → List String → Option (List String)
  | place, [] => some place
  | place, piece :: rest =>
    if !t.isDirectory place then none
    else if Folder.isIdle piece then walk t place rest
    else if piece == ".." then
      if place.isEmpty then none else walk t place.dropLast rest
    else walk t (place ++ [piece]) rest

def file? (t : Tree α) (pieces : List String) : Option α := do
  let place ← t.walk [] pieces
  let item ← t.find? fun item => item.1 == place && item.2.isSome
  item.2

end Tree

namespace Folder

variable {α β : Type}

/-- The same files where those of another folder are kept too: its directories are there. -/
def beside (f : Folder α) (other : Folder β) : Folder α :=
  ⟨f.here ++ other.here.directories, f.elsewhere ++ other.elsewhere.directories⟩

def file? (f : Folder α) (path : String) : Option α :=
  if isAbsolute path then f.elsewhere.file? (pieces path) else f.here.file? (pieces path)

end Folder
end SocketCensus
