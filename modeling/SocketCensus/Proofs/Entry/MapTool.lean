import SocketCensus.Entry.Write
import SocketCensus.Proofs.Bytes.Hex
import SocketCensus.Proofs.Program.Launch

/-!
Entries written by way of the map tool. The arguments for the entry of a process name no other
process, and what comes of the write is what became of the run with these arguments.
-/
namespace SocketCensus

theorem Counters.bytes_zero : zero.bytes = List.replicate 16 0 := by decide

theorem Key.eq_of_encode_eq {p q : Pid} (hp : Fits p) (hq : Fits q)
    (h : LittleEndian.encode 4 p.toNat = LittleEndian.encode 4 q.toNat) : p = q := by
  let key : Key := ⟨LittleEndian.encode 4 p.toNat, LittleEndian.length_encode 4 _⟩
  have hkey : ofPid p = .ok key := ofPid_eq_ok_iff.mpr ⟨hp, rfl⟩
  have hkey' : ofPid q = .ok key := ofPid_eq_ok_iff.mpr ⟨hq, h⟩
  rw [← pid_of_ofPid hkey, pid_of_ofPid hkey']

namespace MapTool

/-- The arguments that write the entry of a process: the four bytes of its key and sixteen zero
bytes, each as a word of its own. -/
def entryArguments (mapPath : String) (p : Pid) : List String :=
  ["map", "update", "pinned", mapPath, "key", "hex"] ++ Hex.words (LittleEndian.encode 4 p.toNat) ++
    ["value", "hex"] ++ List.replicate 16 "00"

theorem eq_of_entryArguments_eq {mapPath : String} {p q : Pid} (hp : Key.Fits p) (hq : Key.Fits q)
    (h : entryArguments mapPath p = entryArguments mapPath q) : p = q := by
  have hwords := List.append_cancel_left <| List.append_cancel_right <| List.append_cancel_right h
  exact Key.eq_of_encode_eq hp hq (Hex.eq_of_words_eq hwords)

theorem arguments_zero {p : Pid} {key : Key} (mapPath : String) (h : Key.ofPid p = .ok key) :
    arguments mapPath key.bytes Counters.zero.bytes = entryArguments mapPath p := by
  have hbytes : key.bytes = LittleEndian.encode 4 p.toNat := (Key.ofPid_eq_ok_iff.mp h).2
  have hzero : Hex.words Counters.zero.bytes = List.replicate 16 "00" := by
    rw [Counters.bytes_zero, Hex.words, List.map_replicate]
    rfl
  rw [arguments, hbytes, hzero, entryArguments]

def entryCommand (tool : MapTool) (mapPath : String) (p : Pid) : String :=
  s!"{tool.program} map update pinned {mapPath} key hex " ++
    s!"{Hex.text (LittleEndian.encode 4 p.toNat)} value hex {Hex.text (List.replicate 16 0)}"

theorem commandLine_zero {p : Pid} {key : Key} (tool : MapTool) (mapPath : String)
    (h : Key.ofPid p = .ok key) :
    tool.commandLine mapPath key.bytes Counters.zero.bytes = tool.entryCommand mapPath p := by
  have hbytes : key.bytes = LittleEndian.encode 4 p.toNat := (Key.ofPid_eq_ok_iff.mp h).2
  rw [commandLine, hbytes, Counters.bytes_zero, entryCommand]
  simp [String.append_assoc]

/-- What is logged about the command for a process: a dry run shows it instead of running it, any
other run shows it to those who want details, before and as it is started. -/
def entryLogs (tool : MapTool) (machine : Machine) (mapPath : String) (p : Pid) : List Log.Entry :=
  if tool.dryRun then [Log.info s!"dry run: {tool.entryCommand mapPath p}"]
  else Log.debug (tool.entryCommand mapPath p) ::
    launchLogs machine tool.program (entryArguments mapPath p)

variable {tool : MapTool} {machine : Machine} {mapPath : String} {p : Pid}

/-- An update logs its command, which a dry run goes no further than. -/
theorem logs_update {key value : List UInt8} : (tool.update machine mapPath key value).logs =
    if tool.dryRun then [Log.info s!"dry run: {tool.commandLine mapPath key value}"]
    else Log.debug (tool.commandLine mapPath key value) ::
      launchLogs machine tool.program (arguments mapPath key value) := by
  unfold update
  dsimp only
  split
  · rfl
  · rw [logs_runTool]

theorem calls_update {key value : List UInt8} : (tool.update machine mapPath key value).calls =
    if tool.dryRun = false ∧
        (attempt machine tool.program (arguments mapPath key value)).ran = true then
      [⟨tool.program, arguments mapPath key value⟩]
    else [] := by
  unfold update
  dsimp only
  split
  · simp [*]
  · simp [*, calls_runTool]

theorem logs_answer {u : Update} (hu : (tool.target machine mapPath).update? p = .ok u) :
    ((tool.target machine mapPath).answer u).logs = tool.entryLogs machine mapPath p := by
  obtain ⟨key, hkey, rfl⟩ := Target.update?_eq_ok_iff.mp hu
  simp only [target, Target.answer, updater, logs_update, entryLogs,
    commandLine_zero tool mapPath hkey, arguments_zero mapPath hkey]

/-- Nothing is logged about the command for a process without a key, which has none. -/
theorem logs_updateTrace : ((tool.target machine mapPath).updateTrace p).logs =
    if Key.Fits p then tool.entryLogs machine mapPath p else [] := by
  rw [Target.updateTrace]
  cases hupdate : (tool.target machine mapPath).update? p with
  | error e =>
    have hfits := (Target.update?_eq_error_iff_not_fits.mp hupdate).1
    simp [hfits, Traced.silent]
  | ok u => simp [Target.fits_of_update? hupdate, logs_answer hupdate]

section DryRuns

variable (hdry : tool.dryRun = true)

include hdry

theorem dry_target (machine others : Machine) (mapPath : String) :
    tool.target machine mapPath = tool.target others mapPath := by
  have hupdater : tool.updater machine mapPath = tool.updater others mapPath := by
    funext key value
    simp [updater, update, hdry]
  rw [target, target, hupdater]

theorem dry_answer (u : Update) : ((tool.target machine mapPath).answer u).value = .ok () ∧
    ((tool.target machine mapPath).answer u).calls = [] := by
  simp [target, Target.answer, updater, update, hdry]

theorem dry_outcome_eq_ok_iff :
    (tool.target machine mapPath).outcome p = .ok () ↔ Key.Fits p := by
  rw [Target.outcome_eq_ok_iff]
  constructor
  · intro h
    obtain ⟨u, hu, -⟩ := h
    exact Target.fits_of_update? hu
  · intro h
    obtain ⟨u, hu⟩ := (tool.target machine mapPath).exists_update? h
    exact ⟨u, hu, (dry_answer hdry u).1⟩

theorem dry_outcome_eq_error_iff {e : WriteError} :
    (tool.target machine mapPath).outcome p = .error e ↔ ¬ Key.Fits p ∧ e = .outOfRange ⟨p⟩ := by
  rw [Target.outcome_eq_error_iff]
  constructor
  · intro h
    rcases h with ⟨cause, hnone, rfl⟩ | ⟨u, cause, -, herror, -⟩
    · obtain ⟨hfits, rfl⟩ := Target.update?_eq_error_iff_not_fits.mp hnone
      exact ⟨hfits, rfl⟩
    · rw [(dry_answer hdry u).1] at herror
      contradiction
  · intro h
    obtain ⟨hfits, rfl⟩ := h
    exact .inl ⟨⟨p⟩, Target.update?_eq_error_iff_not_fits.mpr ⟨hfits, rfl⟩, rfl⟩

theorem dry_calls_write : ((tool.target machine mapPath).write p).calls = [] := by
  rw [Target.calls_write, Target.updateTrace]
  split
  · rfl
  · exact (dry_answer hdry _).2

end DryRuns

section Answers

variable {u : Update} (hreal : tool.dryRun = false)
  (hu : (tool.target machine mapPath).update? p = .ok u)

include hreal hu

/-- Outside a dry run the answer to an update is the result of the run that writes the entry. -/
theorem answer_eq :
    let run := runTool machine tool.limit tool.program (entryArguments mapPath p)
    ((tool.target machine mapPath).answer u).value = run.value.map (fun _ => ()) ∧
      ((tool.target machine mapPath).answer u).calls = run.calls := by
  obtain ⟨key, hkey, rfl⟩ := Target.update?_eq_ok_iff.mp hu
  simp [target, Target.answer, updater, update, hreal, arguments_zero mapPath hkey]

theorem answer_eq_ok_iff :
    ((tool.target machine mapPath).answer u).value = .ok () ↔
      ∃ result, attempt machine tool.program (entryArguments mapPath p) = .finished result ∧
        result.status = .ofExit 0 := by
  simp only [(answer_eq hreal hu).1, ← runTool_eq_ok_iff tool.limit]
  cases (runTool machine tool.limit tool.program (entryArguments mapPath p)).value <;>
    simp [Except.map]

theorem answer_eq_error_iff {cause : ToolError} :
    ((tool.target machine mapPath).answer u).value = .error cause ↔
      (attempt machine tool.program (entryArguments mapPath p)).Fault tool.program tool.limit
        cause := by
  rw [(answer_eq hreal hu).1, ← runTool_eq_error_iff]
  cases (runTool machine tool.limit tool.program (entryArguments mapPath p)).value <;>
    simp [Except.map]

end Answers

/-- The entry of a process is written if the process has a key and its own run exits with
status 0. -/
theorem outcome_eq_ok_iff (hreal : tool.dryRun = false) :
    (tool.target machine mapPath).outcome p = .ok () ↔ Key.Fits p ∧
      ∃ result, attempt machine tool.program (entryArguments mapPath p) = .finished result ∧
        result.status = .ofExit 0 := by
  rw [Target.outcome_eq_ok_iff]
  constructor
  · intro h
    obtain ⟨u, hu, hok⟩ := h
    exact ⟨Target.fits_of_update? hu, (answer_eq_ok_iff hreal hu).mp hok⟩
  · intro h
    obtain ⟨u, hu⟩ := (tool.target machine mapPath).exists_update? h.1
    exact ⟨u, hu, (answer_eq_ok_iff hreal hu).mpr h.2⟩

/-- A process without an entry has no key, or its own run shows the fault that is reported. -/
theorem outcome_eq_error_iff {e : WriteError} (hreal : tool.dryRun = false) :
    (tool.target machine mapPath).outcome p = .error e ↔
      (¬ Key.Fits p ∧ e = .outOfRange ⟨p⟩) ∨ Key.Fits p ∧ ∃ cause,
        (attempt machine tool.program (entryArguments mapPath p)).Fault tool.program tool.limit cause ∧
          e = .update cause := by
  rw [Target.outcome_eq_error_iff]
  constructor
  · intro h
    rcases h with ⟨cause, hnone, rfl⟩ | ⟨u, cause, hu, herror, rfl⟩
    · obtain ⟨hfits, rfl⟩ := Target.update?_eq_error_iff_not_fits.mp hnone
      exact .inl ⟨hfits, rfl⟩
    · have hfault := (answer_eq_error_iff hreal hu).mp herror
      exact .inr ⟨Target.fits_of_update? hu, cause, hfault, rfl⟩
  · intro h
    rcases h with ⟨hfits, rfl⟩ | ⟨hfits, cause, hfault, rfl⟩
    · exact .inl ⟨⟨p⟩, Target.update?_eq_error_iff_not_fits.mpr ⟨hfits, rfl⟩, rfl⟩
    · obtain ⟨u, hu⟩ := (tool.target machine mapPath).exists_update? hfits
      exact .inr ⟨u, cause, hu, (answer_eq_error_iff hreal hu).mpr hfault, rfl⟩

/-- A write calls the tool once if the process has a key and the tool runs to its end. -/
theorem calls_write (hreal : tool.dryRun = false) :
    ((tool.target machine mapPath).write p).calls =
      if Key.Fits p ∧ (attempt machine tool.program (entryArguments mapPath p)).ran = true then
        [⟨tool.program, entryArguments mapPath p⟩]
      else [] := by
  rw [Target.calls_write, Target.updateTrace]
  cases hupdate : (tool.target machine mapPath).update? p with
  | error e =>
    have hfits := (Target.update?_eq_error_iff_not_fits.mp hupdate).1
    simp [hfits, Traced.silent]
  | ok u =>
    have hfits := Target.fits_of_update? hupdate
    simp [hfits, (answer_eq hreal hupdate).2, calls_runTool]

/-- In any mode: an entry is written, or shown as written, if the process has a key and its run, if it
is made at all, exits with status 0. -/
theorem outcome_eq_ok_iff_dryRun_or :
    (tool.target machine mapPath).outcome p = .ok () ↔ Key.Fits p ∧ (tool.dryRun = true ∨
      ∃ result, attempt machine tool.program (entryArguments mapPath p) = .finished result ∧
        result.status = .ofExit 0) := by
  cases hmode : tool.dryRun with
  | true => simp [dry_outcome_eq_ok_iff hmode]
  | false => simp [outcome_eq_ok_iff hmode]

theorem mem_calls_write {call : Call} :
    call ∈ ((tool.target machine mapPath).write p).calls ↔
      (tool.dryRun = false ∧ Key.Fits p ∧ call = ⟨tool.program, entryArguments mapPath p⟩) ∧
        (attempt machine call.program call.arguments).ran = true := by
  cases hmode : tool.dryRun with
  | true => simp [dry_calls_write hmode]
  | false =>
    rw [calls_write hmode]
    split
    · rename_i hmade
      simp only [List.mem_singleton, hmade.1, true_and]
      exact ⟨fun hcall => ⟨hcall, hcall ▸ hmade.2⟩, fun h => h.1⟩
    · rename_i hnone
      simp only [List.not_mem_nil, true_and, false_iff]
      intro h
      obtain ⟨⟨hfits, rfl⟩, hran⟩ := h
      exact hnone ⟨hfits, hran⟩

end MapTool
end SocketCensus
