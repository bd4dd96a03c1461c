import SocketCensus.Discovery.Marker
import SocketCensus.Program.Launch
import SocketCensus.Text.Line

/-!
Discovery of the processes that own sockets: a listing tool is run, and its output is read for
process markers line by line. Only a successful run counts, whatever the output holds.
-/
namespace SocketCensus

structure SocketTool where
  program : String
  arguments : List String
  limit : Duration

namespace SocketTool

/-- All TCP and UDP sockets, with numeric addresses and with processes. -/
def defaultArguments : List String := ["-ptuna"]

def pidsOfOutput (stdout : List UInt8) : List Pid :=
  Pid.distinct (Marker.pids (Text.lines (Utf8.decodeLossy stdout)))

def discover (tool : SocketTool) (machine : Machine) : Traced (Except ToolError (List Pid)) :=
  let run := runTool machine tool.limit tool.program tool.arguments
  match run.value with
  | .error e => ⟨.error e, run.calls, run.logs⟩
  | .ok result =>
    let pids := pidsOfOutput result.stdout
    ⟨.ok pids, run.calls,
      run.logs ++ [Log.debug s!"{tool.program} reported {pids.length} distinct PIDs"]⟩

end SocketTool
end SocketCensus
