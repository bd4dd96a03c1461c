import SocketCensus.Program.Folder
import SocketCensus.Settings.KeyPath
import SocketCensus.Text.Utf8

/-!
Where raw settings come from: a file, which may have the extension left out of its name, and the
variables of the environment whose names have the prefix of the program.
-/
namespace SocketCensus.Settings

abbrev Files := Folder (List UInt8)

/-- Variables with their values. Those that are no text are left out, but it is known of them. -/
structure Environment where
  pairs : List (String × String)
  legible : Bool

namespace File

/-- The name with its extension replaced by `toml`, or extended by it. A period in front of a
name begins no extension. -/
def withExtension (name : String) : String :=
  let reversed := name.toList.reverse
  let stem := (reversed.dropWhile (· != '.')).drop 1
  let stem := if stem = [] then reversed else stem
  String.ofList stem.reverse ++ ".toml"

/-- The same path with the extension of its last name changed, if it ends in a name. -/
def withExtension? (path : String) : Option String :=
  match (Folder.names path).reverse with
  | [] => none
  | last :: before =>
    if last = ".." then none
    else
      some ((if Folder.isAbsolute path then "/" else "") ++
        "/".intercalate (before.reverse ++ [withExtension last]))

def candidates (path : String) : List String := path :: (withExtension? path).toList

def locate? (files : Files) (path : String) : Option (String × List UInt8) :=
  (candidates path).findSome? fun candidate =>
    (files.file? candidate).map fun content => (Folder.plain candidate, content)

end File

namespace Environment

def namePrefix : List Char := "pidtrack_".toList

def origin : String := "the environment"

/-- The lower case of a character, if that is one of ASCII. No other character stands in the name of a
setting or in a path, so that their cases make no difference. -/
def lowerChar (c : Char) : Char := if c = '\u212a' then 'k' else c.toLower

/-- What comes after some bytes of a text; nothing if they end within a character. -/
def dropBytes? : Nat → List Char → Option (List Char)
  | 0, cs => some cs
  | _ + 1, [] => none
  | n + 1, c :: cs => if c.utf8Size ≤ n + 1 then dropBytes? (n + 1 - c.utf8Size) cs else none

def hasPrefix (name : String) : Bool := namePrefix.isPrefixOf (name.toList.map lowerChar)

/-- The name of a setting in a variable's name, in lower case. The prefix is found in any case, but cut
off by its length in bytes. -/
def settingName? (name : String) : Option String :=
  if hasPrefix name then
    (dropBytes? namePrefix.length name.toList).map fun rest => String.ofList (rest.map lowerChar)
  else none

def isTorn (name : String) : Bool := hasPrefix name && (settingName? name).isNone

def given (pairs : List (String × String)) : Fields :=
  pairs.filterMap fun v => (settingName? v.1).map fun name => (name, Node.text (some origin) v.2)

def fields? (env : Environment) : Option Fields :=
  if env.legible && !env.pairs.any fun v => isTorn v.1 then
    some (Fields.putAll (given env.pairs) [])
  else none

end Environment
end SocketCensus.Settings
