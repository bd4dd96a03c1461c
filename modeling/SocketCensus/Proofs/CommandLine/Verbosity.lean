import SocketCensus.Proofs.CommandLine.Outcome
import SocketCensus.Proofs.Settings.Foreign

/-!
Two runs, one with the variable that asks for debugging messages and one without it. The variable has
the prefix of the settings, yet it gives no setting. So both runs do the same work, and they differ in
the debugging messages that are shown and in nothing else, unless the load of one crashes for an index
into the field of the variable's name.
-/
namespace SocketCensus

def Shown.isDebug : Shown → Bool
  | .log entry => entry.level == .debug
  | .printed _ => false

def RunResult.logged (r : RunResult) : List Log.Entry :=
  r.output.filterMap fun
    | .log entry => some entry
    | .printed _ => none

theorem RunResult.filter_output {r : RunResult} (h : r.logged = []) :
    r.output.filter (!·.isDebug) = r.output := by
  refine List.filter_eq_self.mpr ?_
  intro shown hshown
  have hnone := List.filterMap_eq_nil_iff.mp h shown hshown
  cases shown with
  | log entry => contradiction
  | printed text => rfl

namespace CommandLine

def closing (verbose : Bool) (settings : Settings) (w : Work) : RunResult :=
  let logs := shownLogs verbose (Log.debug s!"settings: {settings.text}" :: w.logs)
  match w.result with
  | .ok text => ⟨0, logs ++ [.printed text], [], w.calls⟩
  | .error report => ⟨1, logs, report.lines, w.calls⟩

variable {t : Settings.Traversal} {around : Surroundings} {options : Options} {settings : Settings}

def halted : Halt → RunResult
  | .failed report => ⟨1, [], report.lines, []⟩
  | .crashed => crashed

theorem perform_of_error (course : Course) {halt : Halt}
    (h : loadSettings t around options = .error halt) :
    perform course t around options = halted halt := by
  unfold perform
  rw [h]
  cases halt <;> rfl

theorem perform_of_ok (course : Course) (h : loadSettings t around options = .ok settings) :
    perform course t around options =
      closing (isVerbose around.environment) settings (work course around.machine settings options) := by
  simp only [perform, h]
  rfl

section Closing

variable (verbose : Bool) (settings : Settings) (w : Work)

theorem exit_closing : (closing verbose settings w).exit = if w.result.isOk then 0 else 1 := by
  unfold closing
  cases w.result <;> rfl

theorem errors_closing : (closing verbose settings w).errors =
    match w.result with
    | .ok _ => []
    | .error report => report.lines := by
  unfold closing
  cases w.result <;> rfl

theorem printed_closing : (closing verbose settings w).printed = w.result.toOption.toList := by
  unfold closing RunResult.printed
  cases w.result <;> simp [shownLogs, Except.toOption]

theorem calls_closing : (closing verbose settings w).calls = w.calls := by
  unfold closing
  cases w.result <;> rfl

theorem logged_closing : (closing verbose settings w).logged =
    (Log.debug s!"settings: {settings.text}" :: w.logs).filter (Log.Entry.shown verbose) := by
  unfold closing RunResult.logged
  cases w.result <;> simp [shownLogs, List.filterMap_map]

end Closing

theorem filter_shown_true (entries : List Log.Entry) :
    entries.filter (Log.Entry.shown true) = entries :=
  List.filter_eq_self.mpr fun _ _ => rfl

theorem filter_shownLogs (entries : List Log.Entry) :
    (shownLogs true entries).filter (!·.isDebug) = shownLogs false entries := by
  rw [shownLogs, filter_shown_true, List.filter_map, shownLogs]
  rfl

/-- Without its debugging messages, a verbose run is a quiet one. -/
theorem output_closing (settings : Settings) (w : Work) :
    (closing true settings w).output.filter (!·.isDebug) = (closing false settings w).output := by
  unfold closing
  split
  · rw [List.filter_append, filter_shownLogs]
    rfl
  · rw [filter_shownLogs]

theorem work_perm_work (course other : Course) (machine : Machine) (settings : Settings)
    (options : Options) :
    let w := work course machine settings options
    let w' := work other machine settings options
    w.result = w'.result ∧ w.calls.Perm w'.calls ∧ w.logs.Perm w'.logs := by
  cases hpid : options.pid with
  | some p =>
    rw [work_of_some course hpid, work_of_some other hpid]
    exact ⟨rfl, .refl _, .refl _⟩
  | none =>
    rw [work_of_none course hpid, work_of_none other hpid]
    have hset (found : List Pid) (h : ((listTool settings).discover machine).value = .ok found) :
        found.Nodup := SocketTool.nodup_of_discover h
    obtain ⟨hresult, hcalls, hlogs⟩ := Pass.along_perm_along
      ⟨target machine settings options, settings.writeConcurrency⟩ course other hset
    refine ⟨?_, hcalls, hlogs.cons _⟩
    simp only [fullPass, hresult]

/-- Runs that differ in debugging messages, and in the order of calls and of other messages. -/
structure SameButDebugging (loud quiet : RunResult) : Prop where
  exit : loud.exit = quiet.exit
  printed : loud.printed = quiet.printed
  errors : loud.errors = quiet.errors
  calls : loud.calls.Perm quiet.calls
  logged : (loud.logged.filter (Log.Entry.shown false)).Perm quiet.logged

theorem sameButDebugging_closing (settings : Settings) {w w' : Work} (hresult : w.result = w'.result)
    (hcalls : w.calls.Perm w'.calls) (hlogs : w.logs.Perm w'.logs) :
    SameButDebugging (closing true settings w) (closing false settings w') where
  exit := by rw [exit_closing, exit_closing, hresult]
  printed := by rw [printed_closing, printed_closing, hresult]
  errors := by rw [errors_closing, errors_closing, hresult]
  calls := by rwa [calls_closing, calls_closing]
  logged := by
    rw [logged_closing, logged_closing, filter_shown_true]
    exact (hlogs.cons _).filter _

/-- The same settings, and on two courses the same runs but for the debugging messages of one. On one
course its output without these messages, and its calls, are in the same order too. -/
structure OnlyVerbosity (t : Settings.Traversal) (debugging around : Surroundings)
    (arguments : List String) : Prop where
  output : ∀ course, let loud := runAlong course t debugging arguments
    let quiet := runAlong course t around arguments
    loud.output.filter (!·.isDebug) = quiet.output ∧ loud.calls = quiet.calls
  runs : ∀ course other,
    SameButDebugging (runAlong course t debugging arguments) (runAlong other t around arguments)

/-- Runs that end before their work, without a message, or close the same work. -/
theorem onlyVerbosity_of_loadSettings_eq {debugging : Surroundings} {arguments : List String}
    (hmachine : debugging.machine = around.machine) (hset : isVerbose debugging.environment = true)
    (hunset : isVerbose around.environment = false)
    (hsame : ∀ options, Options.read arguments = .ok options →
      loadSettings t debugging options = loadSettings t around options) :
    OnlyVerbosity t debugging around arguments := by
  have hcases : (∃ r : RunResult, r.logged = [] ∧ ∀ course,
      runAlong course t debugging arguments = r ∧ runAlong course t around arguments = r) ∨
      ∃ settings options, ∀ course,
        let w := work course around.machine settings options
        runAlong course t debugging arguments = closing true settings w ∧
          runAlong course t around arguments = closing false settings w := by
    unfold runAlong
    cases hread : Options.read arguments with
    | error stop =>
      refine .inl ?_
      cases stop <;> exact ⟨_, rfl, fun _ => ⟨rfl, rfl⟩⟩
    | ok options =>
      have hsettings := hsame options hread
      cases hload : loadSettings t around options with
      | error halt =>
        refine .inl ⟨halted halt, by cases halt <;> rfl, fun course => ?_⟩
        exact ⟨perform_of_error course (hsettings.trans hload), perform_of_error course hload⟩
      | ok settings =>
        refine .inr ⟨settings, options, fun course => ⟨?_, ?_⟩⟩
        · rw [← hset, ← hmachine]
          exact perform_of_ok course (hsettings.trans hload)
        · rw [← hunset]
          exact perform_of_ok course hload
  rcases hcases with ⟨r, hnone, hrun⟩ | ⟨settings, options, hrun⟩
  · constructor
    · intro course
      rw [(hrun course).1, (hrun course).2]
      exact ⟨RunResult.filter_output hnone, rfl⟩
    · intro course other
      rw [(hrun course).1, (hrun other).2]
      exact ⟨rfl, rfl, rfl, .refl _, by simp [hnone]⟩
  · constructor
    · intro course
      rw [(hrun course).1, (hrun course).2]
      exact ⟨output_closing settings _, by rw [calls_closing, calls_closing]⟩
    · intro course other
      rw [(hrun course).1, (hrun other).2]
      obtain ⟨hresult, hcalls, hlogs⟩ := work_perm_work course other around.machine settings options
      exact sameButDebugging_closing settings hresult hcalls hlogs

theorem loadSettings_congr {others : Surroundings} (hfiles : around.files = others.files)
    (h : Settings.load t around.files around.environment (configPath options)
        options.config.isSome =
      Settings.load t around.files others.environment (configPath options) options.config.isSome) :
    loadSettings t around options = loadSettings t others options := by
  simp only [loadSettings, h, ← hfiles]

theorem loadSettings_of_crashed
    (h : Settings.load t around.files around.environment (configPath options)
      options.config.isSome = .error .crashed) : loadSettings t around options = .error .crashed := by
  simp only [loadSettings, h]
  rfl

/-- The name under which the variable enters the settings. -/
def debugName : String := "debug"

/-- With the variable a run shows debugging messages, whatever the value, and that is all there is to
it where the same settings are loaded. They are, or are refused for the same reason, whatever the file
and the other variables say under the variable's name, as long as no variable leads from this name to
an index before the first element, or to one that an array has no room for. In any case, if names are
taken in the same orders, it is only by a crash that the loads can differ. -/
theorem debug_variable_adds_messages (t : Settings.Traversal) (machine : Machine)
    (files : Settings.Files) (before after : List (String × String)) (legible : Bool) (s : String)
    (arguments : List String)
    (hunset : isVerbose ⟨before ++ after, legible⟩ = false) :
    let around : Surroundings := ⟨machine, files, ⟨before ++ after, legible⟩⟩
    let debugging : Surroundings :=
      ⟨machine, files, ⟨before ++ (debugVariable, s) :: after, legible⟩⟩
    (around.environment.SteadyUnder t.room debugName →
      ∀ options, loadSettings t debugging options = loadSettings t around options) ∧
    (∀ options, loadSettings t debugging options = loadSettings t around options ∨
      loadSettings t debugging options = .error .crashed ∨
      loadSettings t around options = .error .crashed) ∧
    ((∀ options, Options.read arguments = .ok options →
        loadSettings t debugging options = loadSettings t around options) →
      OnlyVerbosity t debugging around arguments) := by
  intro around debugging
  have hname : Settings.Environment.settingName? debugVariable = some debugName := by decide +kernel
  have hfirst : Settings.KeyPath.first debugName = debugName := by decide +kernel
  have honward : Settings.KeyPath.onward debugName = [] := by decide +kernel
  have hforeign : debugName ∉ Settings.keys := by decide
  have hsame : debugging.environment.SameBut debugName around.environment := by
    have hvariable := Settings.Environment.sameBut_of_variable hname s before after legible
    rwa [hfirst] at hvariable
  have hset : isVerbose debugging.environment = true := by
    simp [debugging, isVerbose]
  refine ⟨?_, ?_, onlyVerbosity_of_loadSettings_eq rfl hset hunset⟩
  · intro hsteady options
    have hboth : debugging.environment.SteadyUnder t.room debugName := by
      intro v hv n hn hlead
      rcases List.mem_append.mp hv with hv | hv
      · exact hsteady v (List.mem_append_left _ hv) n hn hlead
      · rcases List.mem_cons.mp hv with rfl | hv
        · obtain rfl := Option.some.inj (hname.symm.trans hn)
          rw [honward]
          exact Settings.KeyPath.steady_nil
        · exact hsteady v (List.mem_append_right _ hv) n hn hlead
    have hload : Settings.load t files debugging.environment (configPath options)
        options.config.isSome = Settings.load t files around.environment (configPath options)
          options.config.isSome :=
      hsame.load_eq_of_steady hforeign hboth hsteady
    exact loadSettings_congr rfl hload
  · intro options
    rcases hsame.load_eq_or (t := t) hforeign with hload | hcrashed | hcrashed
    · exact .inl (loadSettings_congr rfl hload)
    · exact .inr (.inl (loadSettings_of_crashed hcrashed))
    · exact .inr (.inr (loadSettings_of_crashed hcrashed))

/-- The variable is empty, the file has a table of its name, and another variable sets a field there. -/
theorem debug_variable_adds_messages_of_empty :
    let bytes := fun (s : String) => s.toList.map fun c => UInt8.ofNat c.toNat
    let machine : Machine :=
      ⟨fun _ _ => .finished ⟨.ofExit 0, bytes "pid=7", []⟩, fun program _ => program⟩
    let files : Settings.Files := Folder.ofList
      [("census.toml", some (bytes "ss_path = \"lister\"\n[debug]\nlevel = 3\n"))]
    let others := [("PIDTRACK_DEBUG.level", "x")]
    let arguments := ["--config", "census.toml", "/map"]
    let quiet := runAlong Course.eager .asGiven ⟨machine, files, ⟨others, true⟩⟩ arguments
    let loud := runAlong Course.eager .asGiven
      ⟨machine, files, ⟨(debugVariable, "") :: others, true⟩⟩ arguments
    quiet.exit = 0 ∧ quiet.printed = ["discovered: 1, inserted: 1, failed: 0"] ∧
      quiet.logged = [Log.info "scanning for active network PIDs",
        Log.info "found 1 active network PIDs"] ∧ loud.logged.length = 8 ∧
      loud.exit = 0 ∧ loud.printed = ["discovered: 1, inserted: 1, failed: 0"] ∧
      loud.output.filter (!·.isDebug) = quiet.output := by
  intro bytes machine files others arguments quiet loud
  have hexit : quiet.exit = 0 := by decide +kernel
  have hprinted : quiet.printed = ["discovered: 1, inserted: 1, failed: 0"] := by decide +kernel
  have hlogged : quiet.logged = [Log.info "scanning for active network PIDs",
      Log.info "found 1 active network PIDs"] := by decide +kernel
  have hlength : loud.logged.length = 8 := by decide +kernel
  have hsteady : Settings.Environment.SteadyUnder ⟨others, true⟩ Settings.Traversal.asGiven.room
      debugName := by
    intro v hv n hn _
    obtain rfl := List.mem_singleton.mp hv
    have hname : Settings.Environment.settingName? "PIDTRACK_DEBUG.level" = some "debug.level" := by
      decide +kernel
    have honward : Settings.KeyPath.onward "debug.level" = [.key "level"] := by decide +kernel
    obtain rfl := Option.some.inj (hname.symm.trans hn)
    rw [honward]
    intro i hi
    simp at hi
  obtain ⟨hloads, -, hsame⟩ :=
    debug_variable_adds_messages .asGiven machine files [] others true "" arguments (by decide)
  have honly := hsame fun options _ => hloads hsteady options
  have hrun := honly.runs Course.eager Course.eager
  exact ⟨hexit, hprinted, hlogged, hlength, hrun.exit.trans hexit, hrun.printed.trans hprinted,
    (honly.output Course.eager).1⟩

/-- The file has an array of the variable's name, and another variable changes its last element. With
the debugging variable set first there is a text instead of the array, which has no last element. -/
theorem debug_variable_crashes_run :
    let bytes := fun (s : String) => s.toList.map fun c => UInt8.ofNat c.toNat
    let machine : Machine := ⟨fun _ _ => .finished ⟨.ofExit 0, [], []⟩, fun program _ => program⟩
    let files : Settings.Files := Folder.ofList [("c.toml", some (bytes "debug = [1]\n"))]
    let others := [("PIDTRACK_DEBUG[-1]", "x")]
    let arguments := ["--config", "c.toml", "--pid", "7", "/map"]
    let quiet := runAlong Course.eager .asGiven ⟨machine, files, ⟨others, true⟩⟩ arguments
    let loud := runAlong Course.eager .asGiven
      ⟨machine, files, ⟨(debugVariable, "1") :: others, true⟩⟩ arguments
    quiet.exit = 0 ∧ quiet.printed = ["Added PID 7 to the BPF map at /map."] ∧ loud.exit = 101 ∧
      ¬ ∀ course t machine files before after legible s arguments,
        isVerbose ⟨before ++ after, legible⟩ = false →
        (runAlong course t ⟨machine, files, ⟨before ++ (debugVariable, s) :: after, legible⟩⟩
          arguments).exit =
        (runAlong course t ⟨machine, files, ⟨before ++ after, legible⟩⟩ arguments).exit := by
  intro bytes machine files others arguments quiet loud
  have hquiet : quiet.exit = 0 := by decide +kernel
  have hloud : loud.exit = 101 := by decide +kernel
  refine ⟨hquiet, by decide +kernel, hloud, ?_⟩
  intro hsame
  have hexit : loud.exit = quiet.exit :=
    hsame Course.eager .asGiven machine files [] others true "1" arguments (by decide)
  rw [hloud, hquiet] at hexit
  exact absurd hexit (by decide)

end CommandLine
end SocketCensus
