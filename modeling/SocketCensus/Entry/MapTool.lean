import SocketCensus.Bytes.Hex
import SocketCensus.Program.Launch

/-!
The tool that updates pinned maps. Keys and values are passed byte by byte, each as a word of
two hexadecimal digits; a dry run logs the command line instead of running it.
-/
namespace SocketCensus

structure MapTool where
  program : String
  limit : Duration
  dryRun : Bool

namespace MapTool

def arguments (mapPath : String) (key value : List UInt8) : List String :=
  ["map", "update", "pinned", mapPath, "key", "hex"] ++ Hex.words key ++
    ["value", "hex"] ++ Hex.words value

/-- The command as it is shown in the log. -/
def commandLine (tool : MapTool) (mapPath : String) (key value : List UInt8) : String :=
  s!"{tool.program} map update pinned {mapPath} key hex {Hex.text key} value hex {Hex.text value}"

def update (tool : MapTool) (machine : Machine) (mapPath : String) (key value : List UInt8) :
    Traced (Except ToolError Unit) :=
  let shown := tool.commandLine mapPath key value
  if tool.dryRun then ⟨.ok (), [], [Log.info s!"dry run: {shown}"]⟩
  else
    let run := runTool machine tool.limit tool.program (arguments mapPath key value)
    ⟨run.value.map fun _ => (), run.calls, Log.debug shown :: run.logs⟩

end MapTool
end SocketCensus
