import SocketCensus.Discovery.SocketTool
import SocketCensus.Proofs.Program.Launch

/-!
What a discovery comes to. It stands and falls with the one run of the listing tool, whose output is
read only if the tool exited with status 0.
-/
namespace SocketCensus.SocketTool

variable {tool : SocketTool} {machine : Machine}

theorem discover_eq_ok_iff {found : List Pid} :
    (tool.discover machine).value = .ok found ↔
      ∃ listing, attempt machine tool.program tool.arguments = .finished listing ∧
        listing.status = .ofExit 0 ∧ found = pidsOfOutput listing.stdout := by
  simp only [← and_assoc, ← runTool_eq_ok_iff tool.limit]
  unfold discover
  dsimp only
  split
  · rename_i e hrun
    simp [hrun]
  · rename_i listing hrun
    simp [hrun, eq_comm]

theorem nodup_of_discover {found : List Pid} (h : (tool.discover machine).value = .ok found) :
    found.Nodup := by
  obtain ⟨listing, -, -, rfl⟩ := discover_eq_ok_iff.mp h
  exact Pid.nodup_distinct _

theorem discover_eq_error_iff {e : ToolError} :
    (tool.discover machine).value = .error e ↔
      (attempt machine tool.program tool.arguments).Fault tool.program tool.limit e := by
  rw [← runTool_eq_error_iff]
  unfold discover
  dsimp only
  split <;> simp [*]

theorem mem_calls_discover {call : Call} : call ∈ (tool.discover machine).calls ↔
    call = ⟨tool.program, tool.arguments⟩ ∧
      (attempt machine call.program call.arguments).ran = true := by
  have hcalls : (tool.discover machine).calls =
      (runTool machine tool.limit tool.program tool.arguments).calls := by
    unfold discover
    dsimp only
    split <;> rfl
  rw [hcalls, calls_runTool]
  constructor
  · intro h
    split at h
    · rename_i hran
      obtain rfl := List.mem_singleton.mp h
      exact ⟨rfl, hran⟩
    · simp at h
  · intro h
    obtain ⟨rfl, hran⟩ := h
    simp [hran]

theorem discover_congr {others : Machine} (h : machine.Agree others ⟨tool.program, tool.arguments⟩) :
    tool.discover machine = tool.discover others := by
  unfold discover
  rw [runTool_congr h]

theorem level_of_mem_logs_discover {entry : Log.Entry} (h : entry ∈ (tool.discover machine).logs) :
    entry.level = .debug := by
  unfold discover at h
  dsimp only at h
  rw [logs_runTool] at h
  split at h
  · exact level_of_mem_launchLogs h
  · rcases List.mem_append.mp h with h | h
    · exact level_of_mem_launchLogs h
    · rw [List.mem_singleton.mp h]
      rfl

end SocketCensus.SocketTool
