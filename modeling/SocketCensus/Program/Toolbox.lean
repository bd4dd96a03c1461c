import SocketCensus.Program.Folder
import SocketCensus.Program.Launch
import SocketCensus.Text.Quoted

/-!
A machine made of programs with fixed behaviour. A name without a directory is looked for on the
search path, a name with one in the working directory.
-/
namespace SocketCensus

structure Script where
  stdout : List UInt8
  stderr : List UInt8
  status : WaitStatus
  outlives : Bool

inductive Item
  | runnable (script : Script) (rules : List (String × Script))
  | unstartable (error : StartError)
  | unusable
  | directory

/-- Programs by name on the search path, and by path in the working directory. -/
structure Toolbox where
  onPath : List (String × Item)
  folder : Folder Item

namespace Toolbox

/-- The bytes of the key in the arguments of a map update: the seventh to the tenth. -/
def keyArguments (arguments : List String) : String :=
  " ".intercalate ((arguments.drop 6).take 4)

def scriptFor (script : Script) (rules : List (String × Script)) (arguments : List String) :
    Script :=
  ((rules.find? fun rule => rule.1 == keyArguments arguments).map Prod.snd).getD script

/-- The names that a path consists of, where a leading step to the working directory counts. -/
def stepCount (program : String) : Nat :=
  (Folder.names program).length +
    (if Folder.isAbsolute program || (Folder.pieces program).head? == some "." then 1 else 0)

/-- A program is looked up by its path if the path has more than one step. -/
def isPath (program : String) : Bool := Folder.isAbsolute program || 1 < stepCount program

def content? : Item → Option Item
  | .directory => none
  | item => some item

/-- An item whose name has a slash is kept in the working directory. -/
def ofList (items : List (String × Item)) : Toolbox :=
  let (kept, onPath) := items.partition fun item => item.1.toList.contains '/'
  ⟨onPath, Folder.ofList (kept.map fun item => (item.1, content? item.2))⟩

def beside {α : Type} (t : Toolbox) (files : Folder α) : Toolbox :=
  { t with folder := t.folder.beside files }

def find? (t : Toolbox) (program : String) : Option Item :=
  if isPath program then t.folder.file? program
  else if program.toList.contains '/' then none
  else t.onPath.lookup program

def reply (t : Toolbox) (program : String) (arguments : List String) : Reply :=
  match t.find? program with
  | none => .missing
  | some .unusable => .missing
  | some .directory => .missing
  | some (.unstartable error) => .unstartable error
  | some (.runnable script rules) =>
    let script := scriptFor script rules arguments
    if script.outlives then .outlived
    else .finished ⟨script.status, script.stdout, script.stderr⟩

/-- Commands are shown by the names of their programs, as there are no paths to show. -/
def machine (t : Toolbox) : Machine where
  reply := t.reply
  command := fun program arguments => " ".intercalate ((program :: arguments).map Text.quote)

end Toolbox
end SocketCensus
