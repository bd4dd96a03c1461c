import SocketCensus.Proofs.Discovery.SocketTool
import SocketCensus.Proofs.Pass.Messages
import SocketCensus.Proofs.Pass.Tools

/-!
A dry run beside the run that it stands for. The two take the same discovery; the dry run then shows
the commands that the other runs, and answers what the other answers if all of them succeed.
-/
namespace SocketCensus

/-- The entry shows a command in the place of its run. -/
def Log.Entry.isDryRun (e : Log.Entry) : Bool :=
  e.level == .info && "dry run: ".toList.isPrefixOf e.message.toList

namespace MapTool

def entryCommands (tool : MapTool) (mapPath : String) (ps : List Pid) : List String :=
  (ps.filter fun p => decide (Key.Fits p)).map (tool.entryCommand mapPath)

variable {tool : MapTool} {machine : Machine} {mapPath : String}

def entryLaunchLogs (tool : MapTool) (machine : Machine) (mapPath : String) (ps : List Pid) :
    List Log.Entry :=
  (ps.filter fun p => decide (Key.Fits p)).flatMap fun p =>
    launchLogs machine tool.program (entryArguments mapPath p)

theorem flatMap_logs_updateTrace (ps : List Pid) :
    (ps.flatMap fun p => ((tool.target machine mapPath).updateTrace p).logs) =
      (ps.filter fun p => decide (Key.Fits p)).flatMap (tool.entryLogs machine mapPath) := by
  induction ps with
  | nil => rfl
  | cons p rest ih =>
    rw [List.flatMap_cons, ih, logs_updateTrace]
    by_cases hfits : Key.Fits p
    · simp [hfits]
    · simp [hfits]

/-- A dry run shows its commands and starts none of them. -/
theorem dry_logs (hdry : tool.dryRun = true) (ps : List Pid) :
    (ps.flatMap fun p => ((tool.target machine mapPath).updateTrace p).logs) =
      (tool.entryCommands mapPath ps).map fun command => Log.info s!"dry run: {command}" := by
  have hentry : tool.entryLogs machine mapPath =
      fun p => [Log.info s!"dry run: {tool.entryCommand mapPath p}"] := by
    funext p
    simp [entryLogs, hdry]
  rw [flatMap_logs_updateTrace, hentry, ← List.map_eq_flatMap, entryCommands, List.map_map]
  rfl

/-- Any other run logs each command, and once more as it is started. -/
theorem real_logs_perm (hreal : tool.dryRun = false) (ps : List Pid) :
    (ps.flatMap fun p => ((tool.target machine mapPath).updateTrace p).logs).Perm
      ((tool.entryCommands mapPath ps).map Log.debug ++ tool.entryLaunchLogs machine mapPath ps) := by
  have hentry : tool.entryLogs machine mapPath = fun p => [Log.debug (tool.entryCommand mapPath p)] ++
      launchLogs machine tool.program (entryArguments mapPath p) := by
    funext p
    simp [entryLogs, hreal]
  rw [flatMap_logs_updateTrace, hentry, entryCommands, List.map_map, List.map_eq_flatMap]
  exact (List.flatMap_append_perm _ _ _).symm

theorem outcome_eq_dry_outcome {dryTool : MapTool} {others : Machine} {p : Pid}
    (hdry : dryTool.dryRun = true) (hreal : tool.dryRun = false)
    (hobliging : Key.Fits p → ∃ result,
      attempt machine tool.program (entryArguments mapPath p) = .finished result ∧
        result.status = .ofExit 0) :
    (tool.target machine mapPath).outcome p = (dryTool.target others mapPath).outcome p := by
  by_cases hfits : Key.Fits p
  · rw [(outcome_eq_ok_iff hreal).mpr ⟨hfits, hobliging hfits⟩, (dry_outcome_eq_ok_iff hdry).mpr hfits]
  · rw [(outcome_eq_error_iff hreal).mpr (.inl ⟨hfits, rfl⟩),
      (dry_outcome_eq_error_iff hdry).mpr ⟨hfits, rfl⟩]

end MapTool

namespace Pass

theorem isDryRun_openingLog (ps : List Pid) : (openingLog ps).isDryRun = false := by
  unfold openingLog
  split
  · rfl
  · simp only [Log.Entry.isDryRun, Log.info, String.toList_append]
    rfl

theorem isDryRun_of_mem_messages {mapPath : String} {s : Summary} {e : Log.Entry}
    (h : e ∈ s.messages mapPath) : e.isDryRun = false := by
  rcases List.mem_append.mp h with h | h
  · obtain ⟨p, -, rfl⟩ := List.mem_map.mp h
    rfl
  · obtain ⟨f, -, rfl⟩ := List.mem_map.mp h
    rfl

theorem isDryRun_shown (command : String) : (Log.info s!"dry run: {command}").isDryRun = true := by
  have htext : (Log.info s!"dry run: {command}").message.toList =
      "dry run: ".toList ++ command.toList := String.toList_append
  rw [Log.Entry.isDryRun, htext, List.isPrefixOf_iff_prefix.mpr (List.prefix_append _ _)]
  rfl

/-- Among the messages of a pass only its commands can be shown in the place of runs. -/
theorem filter_isDryRun {logs source commands messages : List Log.Entry} {opening : Log.Entry}
    (hlogs : logs.Perm (source ++ opening :: (commands ++ messages)))
    (hsource : ∀ e ∈ source, e.isDryRun = false) (hopening : opening.isDryRun = false)
    (hcommands : ∀ e ∈ commands, e.isDryRun = true) (hmessages : ∀ e ∈ messages, e.isDryRun = false) :
    (logs.filter Log.Entry.isDryRun).Perm commands := by
  have hnone {entries : List Log.Entry} (h : ∀ e ∈ entries, e.isDryRun = false) :
      entries.filter Log.Entry.isDryRun = [] :=
    List.filter_eq_nil_iff.mpr fun e he => by simp [h e he]
  refine (hlogs.filter _).trans (.of_eq ?_)
  rw [List.filter_append, List.filter_cons, List.filter_append, hnone hsource, hnone hmessages,
    List.filter_eq_self.mpr hcommands]
  simp [hopening]

end Pass

theorem SocketTool.isDryRun_of_mem_logs_discover {tool : SocketTool} {machine : Machine}
    {e : Log.Entry} (h : e ∈ (tool.discover machine).logs) : e.isDryRun = false := by
  simp [Log.Entry.isDryRun, level_of_mem_logs_discover h]

namespace Pass

theorem calls_along_of_writes_silent (pass : Pass) (course : Course)
    (source : Traced (Except ToolError (List Pid)))
    (hsilent : ∀ p, (pass.target.write p).calls = []) :
    (pass.along course source).calls = source.calls := by
  cases hvalue : source.value with
  | error e => rw [pass.along_of_error course hvalue]
  | ok found =>
    obtain ⟨order, -, hcalls, -⟩ := pass.exists_order_along course hvalue
    simp [hcalls, hsilent]

/-- What a dry run over the processes found tells of the real runs. Its summary is that of the real runs
in which every command for a process with a key succeeds, and it shows the commands that any real run
logs. Beside that the two log what was found and what their summaries account for, and a real run
announces what it starts. -/
structure Foretells (tool : MapTool) (mapPath : String) (discovery : List Log.Entry)
    (found : List Pid) (dry : Report) (real : Machine → Report) (s : Summary) : Prop where
  result : dry.result = .ok s
  mem_inserted : ∀ p, p ∈ s.inserted ↔ p ∈ found ∧ Key.Fits p
  mem_failed : ∀ p e, (p, e) ∈ s.failed ↔ p ∈ found ∧ ¬ Key.Fits p ∧ e = .outOfRange ⟨p⟩
  shown : (dry.logs.filter Log.Entry.isDryRun).Perm
    ((tool.entryCommands mapPath found).map fun command => Log.info s!"dry run: {command}")
  logs : dry.logs.Perm (discovery ++ openingLog found ::
    (((tool.entryCommands mapPath found).map fun command => Log.info s!"dry run: {command}") ++
      s.messages mapPath))
  real_logs : ∀ others, ∃ s', (real others).result = .ok s' ∧
    (real others).logs.Perm (discovery ++ openingLog found ::
      ((tool.entryCommands mapPath found).map Log.debug ++
        tool.entryLaunchLogs others mapPath found ++ s'.messages mapPath))
  real_result : ∀ others, (∀ p ∈ found, Key.Fits p → ∃ result,
    attempt others tool.program (MapTool.entryArguments mapPath p) = .finished result ∧
      result.status = .ofExit 0) → (real others).result = .ok s

/-- A dry run calls no more than the listing tool and takes no notice of what the map tool is or would
do. It fails as the real run fails, whose discovery is the same, and otherwise foretells it. -/
theorem dry_run_predicts (machine : Machine) (listTool : SocketTool) (program : String)
    (limit : Duration) (mapPath : String) (c c' : Nat) (course course' : Course) :
    let source := listTool.discover machine
    let dryTool : MapTool := ⟨program, limit, true⟩
    let realTool : MapTool := ⟨program, limit, false⟩
    let dryPass := fun others => Pass.mk (dryTool.target others mapPath) c
    let realPass := fun others => Pass.mk (realTool.target others mapPath) c'
    let dry := (dryPass machine).along course source
    let real := fun others => (realPass others).along course' source
    dry.calls = source.calls ∧
    (∀ others, (dryPass others).along course source = dry) ∧
    (∀ others e, dry.result = .error e ↔ (real others).result = .error e) ∧
    ∀ found, source.value = .ok found →
      found.Nodup ∧ ∃ s, Foretells realTool mapPath source.logs found dry real s := by
  intro source dryTool realTool dryPass realPass dry real
  have hdry : dryTool.dryRun = true := rfl
  have hreal : realTool.dryRun = false := rfl
  refine ⟨?_, ?_, ?_, ?_⟩
  · exact calls_along_of_writes_silent _ _ _ fun p => MapTool.dry_calls_write hdry
  · intro others
    have htarget : dryTool.target others mapPath = dryTool.target machine mapPath :=
      MapTool.dry_target hdry others machine mapPath
    simp only [dryPass, dry, htarget]
  · intro others e
    rw [result_along_eq_error_iff, result_along_eq_error_iff]
  · intro found hfound
    have hset : found.Nodup := SocketTool.nodup_of_discover hfound
    obtain ⟨s, hresult, hs⟩ := (dryPass machine).result_along course hset hfound
    have hlogs := (dryPass machine).logs_along_perm course hset hfound hs
    rw [MapTool.dry_logs hdry] at hlogs
    refine ⟨hset, s, hresult, ?_, ?_, ?_, hlogs, ?_, ?_⟩
    · intro p
      rw [hs.mem_inserted, MapTool.dry_outcome_eq_ok_iff hdry]
    · intro p e
      rw [hs.mem_failed, MapTool.dry_outcome_eq_error_iff hdry]
    · refine filter_isDryRun hlogs (fun e => SocketTool.isDryRun_of_mem_logs_discover)
        (isDryRun_openingLog found) ?_ fun e => isDryRun_of_mem_messages
      intro e he
      obtain ⟨command, -, rfl⟩ := List.mem_map.mp he
      exact isDryRun_shown command
    · intro others
      obtain ⟨s', hresult', hs'⟩ := (realPass others).result_along course' hset hfound
      have hlogs' := (realPass others).logs_along_perm course' hset hfound hs'
      have hcommands : (found.flatMap fun p => ((realTool.target others mapPath).updateTrace p).logs).Perm
          ((realTool.entryCommands mapPath found).map Log.debug ++
            realTool.entryLaunchLogs others mapPath found) :=
        MapTool.real_logs_perm hreal found
      exact ⟨s', hresult', hlogs'.trans (((hcommands.append_right _).cons _).append_left _)⟩
    · intro others hobliging
      obtain ⟨s', hresult', hs'⟩ := (realPass others).result_along course' hset hfound
      have hsame (p : Pid) (hp : p ∈ found) : (realTool.target others mapPath).outcome p =
          (dryTool.target machine mapPath).outcome p :=
        MapTool.outcome_eq_dry_outcome hdry hreal (hobliging p hp)
      rw [← hs.unique (hs'.of_outcome_eq hsame) (.refl found)]
      exact hresult'

/-- Two processes, one of them without a key, on a machine that lacks the map tool and on one that
has it. -/
theorem dry_run_predicts_for_two :
    let listing : Finished :=
      ⟨.ofExit 0, "pid=7,pid=4294967296".toList.map fun c => UInt8.ofNat c.toNat, []⟩
    let command := fun (program : String) (arguments : List String) =>
      " ".intercalate (program :: arguments)
    let machine : Machine :=
      ⟨fun program _ => if program = "ss" then .finished listing else .missing, command⟩
    let others : Machine := ⟨fun _ _ => .finished ⟨.ofExit 0, [], []⟩, command⟩
    let source := (SocketTool.mk "ss" ["-ptuna"] (.ofMillis 20)).discover machine
    let dryPass : Pass := ⟨(MapTool.mk "bpftool" (.ofMillis 30) true).target machine "/map", 3⟩
    let realPass : Pass := ⟨(MapTool.mk "bpftool" (.ofMillis 30) false).target others "/map", 1⟩
    let dry := dryPass.along Course.eager source
    let real := realPass.along Course.eager source
    source.value = .ok [7, 4294967296] ∧ dry.calls = [⟨"ss", ["-ptuna"]⟩] ∧
      (dry.logs.filter Log.Entry.isDryRun).Perm [Log.info ("dry run: bpftool map update pinned /map" ++
        " key hex 07 00 00 00 value hex 00 00 00 00 00 00 00 00 00 00 00 00 00 00 00 00")] ∧
      ∃ s, dry.result = .ok s ∧ real.result = .ok s ∧ 7 ∈ s.inserted ∧
        (4294967296, .outOfRange ⟨4294967296⟩) ∈ s.failed := by
  intro listing command machine others source dryPass realPass dry real
  have hlisted : SocketTool.pidsOfOutput listing.stdout = [7, 4294967296] := by decide +kernel
  have hfound : source.value = .ok [7, 4294967296] :=
    SocketTool.discover_eq_ok_iff.mpr ⟨listing, rfl, rfl, hlisted.symm⟩
  obtain ⟨hcalls, -, -, hok⟩ := dry_run_predicts machine ⟨"ss", ["-ptuna"], .ofMillis 20⟩ "bpftool"
    (.ofMillis 30) "/map" 3 1 Course.eager Course.eager
  obtain ⟨-, s, hforetells⟩ := hok _ hfound
  have hreal : real.result = .ok s := by
    apply hforetells.real_result others
    intro p hp hfits
    rcases List.mem_cons.mp hp with rfl | hp
    · exact ⟨⟨.ofExit 0, [], []⟩, rfl, rfl⟩
    · rw [List.mem_singleton.mp hp] at hfits
      exact absurd hfits (by decide)
  refine ⟨hfound, hcalls, hforetells.shown, s, hforetells.result, hreal, ?_, ?_⟩
  · exact (hforetells.mem_inserted 7).mpr ⟨by decide, by decide⟩
  · exact (hforetells.mem_failed 4294967296 _).mpr ⟨by decide, by decide, rfl⟩

end Pass
end SocketCensus
