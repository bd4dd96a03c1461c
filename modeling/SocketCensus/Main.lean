import SocketCensus.CommandLine.Run

/-!
The command. The listing of sockets is read from standard input, in the form in which the
listing tool prints it; no other program is at hand, so entries are shown by a dry run.
-/
namespace SocketCensus.Main

/-- A machine on which the listing tool alone is there, with its output known beforehand. -/
def listingMachine (listing : List UInt8) : Machine where
  reply := fun _ arguments =>
    if arguments = SocketTool.defaultArguments then .finished ⟨.ofExit 0, listing, []⟩ else .missing
  command := fun program arguments => " ".intercalate ((program :: arguments).map Text.quote)

/-- The environment in the form in which the system keeps it, each variable closed by a zero byte. -/
def environment (block : ByteArray) : Settings.Environment :=
  let text := Utf8.decodeLossy block.toList
  let pairs := ((String.ofList text).splitOn "\x00").filterMap fun line =>
    match line.toList.span (· != '=') with
    | (name, '=' :: value) => some (String.ofList name, String.ofList value)
    | _ => none
  ⟨pairs, (Utf8.decode? block.toList).isSome⟩

def readBytes (path : String) : IO (Option ByteArray) := do
  try return some (← IO.FS.readBinFile path) catch _ => return none

def readFiles (paths : List String) : IO Settings.Files := do
  let found ← paths.filterMapM fun path => do
    return (← readBytes path).map fun bytes => (path, some bytes.toList)
  return Folder.ofList found

def readListing (arguments : List String) : IO (List UInt8) := do
  match Options.read arguments with
  | .ok ⟨_, _, none, _⟩ => return (← (← IO.getStdin).readBinToEnd).toList
  | _ => return []

def configPath (arguments : List String) : String :=
  match Options.read arguments with
  | .ok options => CommandLine.configPath options
  | .error _ => CommandLine.defaultConfig

end SocketCensus.Main

open SocketCensus in
def main (arguments : List String) : IO UInt32 := do
  let block ← Main.readBytes "/proc/self/environ"
  let files ← Main.readFiles (Settings.File.candidates (Main.configPath arguments))
  let listing ← Main.readListing arguments
  let result := CommandLine.run
    ⟨Main.listingMachine listing, files, Main.environment (block.getD .empty)⟩ arguments
  for shown in result.output do
    match shown with
    | .log entry => IO.println entry.text
    | .printed text => IO.println text
  for line in result.errors do
    IO.eprintln line
  return UInt32.ofNat result.exit
