import SocketCensus.Proofs.CommandLine.Work
import SocketCensus.Proofs.Settings.Crash
import SocketCensus.Proofs.Settings.Layers

/-!
What a run of the command comes to: its exit status, what it prints, and the programs that it calls.
Work is done only for accepted options with settings. No program is called but for that work, and no
other program could change anything about the run. Where the load of the settings crashes, so does the
run.
-/
namespace SocketCensus

def RunResult.printed (r : RunResult) : List String :=
  r.output.filterMap fun
    | .printed text => some text
    | .log _ => none

namespace CommandLine

/-- The arguments are accepted and the settings are there, so that a run gets to its work. -/
structure Accepted (t : Settings.Traversal) (around : Surroundings) (arguments : List String)
    (options : Options) (settings : Settings) : Prop where
  read : Options.read arguments = .ok options
  loaded : loadSettings t around options = .ok settings

def Crashes (t : Settings.Traversal) (around : Surroundings) (arguments : List String) : Prop :=
  ∃ options fields, Options.read arguments = .ok options ∧
    Settings.fileFields around.files (configPath options) options.config.isSome = .ok fields ∧
    Settings.Crash t fields around.environment

variable {t : Settings.Traversal} {around : Surroundings} {arguments : List String} {options : Options}
  {settings : Settings}

theorem Accepted.unique {others : Options} {otherSettings : Settings}
    (h : Accepted t around arguments options settings)
    (hother : Accepted t around arguments others otherSettings) :
    options = others ∧ settings = otherSettings := by
  have hread := h.read.symm.trans hother.read
  cases hread
  have hloaded := h.loaded.symm.trans hother.loaded
  cases hloaded
  exact ⟨rfl, rfl⟩

theorem Accepted.exists_iff (h : Accepted t around arguments options settings)
    {P : Options → Settings → Prop} :
    (∃ options settings, Accepted t around arguments options settings ∧ P options settings) ↔
      P options settings := by
  constructor
  · intro hexists
    obtain ⟨others, otherSettings, hother, hp⟩ := hexists
    obtain ⟨rfl, rfl⟩ := h.unique hother
    exact hp
  · intro hp
    exact ⟨options, settings, h, hp⟩

theorem loadSettings_eq_crashed_iff : loadSettings t around options = .error .crashed ↔
    ∃ fields, Settings.fileFields around.files (configPath options) options.config.isSome = .ok fields ∧
      Settings.Crash t fields around.environment := by
  rw [← Settings.load_eq_crashed_iff, loadSettings]
  cases Settings.load t around.files around.environment (configPath options)
      options.config.isSome with
  | ok settings => simp [Except.mapError]
  | error failure => cases failure <;> simp [Except.mapError]

theorem crashes_iff (hread : Options.read arguments = .ok options) :
    Crashes t around arguments ↔ loadSettings t around options = .error .crashed := by
  rw [loadSettings_eq_crashed_iff]
  constructor
  · intro h
    obtain ⟨others, fields, hother, hfile, hcrash⟩ := h
    cases hread.symm.trans hother
    exact ⟨fields, hfile, hcrash⟩
  · intro h
    obtain ⟨fields, hfile, hcrash⟩ := h
    exact ⟨options, fields, hread, hfile, hcrash⟩

theorem Accepted.not_crashes (h : Accepted t around arguments options settings) :
    ¬ Crashes t around arguments := by
  rw [crashes_iff h.read, h.loaded]
  intro hcrash
  contradiction

theorem not_crashes_of_stop {stop : Stop} (hread : Options.read arguments = .error stop) :
    ¬ Crashes t around arguments := by
  intro h
  obtain ⟨options, fields, hok, -⟩ := h
  rw [hread] at hok
  contradiction

inductive Declined (t : Settings.Traversal) (around : Surroundings) (arguments : List String) :
    RunResult → Prop
  | helped (hread : Options.read arguments = .error .help) :
      Declined t around arguments (printing Options.helpText)
  | versioned (hread : Options.read arguments = .error .version) :
      Declined t around arguments (printing Options.versionText)
  | refused {error : UsageError} (hread : Options.read arguments = .error (.usage error)) :
      Declined t around arguments (refused error)
  | failed {options : Options} {report : ErrorReport} (hread : Options.read arguments = .ok options)
      (hload : loadSettings t around options = .error (.failed report)) :
      Declined t around arguments ⟨1, [], report.lines, []⟩
  | crashed {options : Options} (hread : Options.read arguments = .ok options)
      (hload : loadSettings t around options = .error .crashed) : Declined t around arguments crashed

theorem declined_or_accepted (course : Course) (t : Settings.Traversal) (around : Surroundings)
    (arguments : List String) :
    (Declined t around arguments (runAlong course t around arguments) ∧
      ∀ options settings, ¬ Accepted t around arguments options settings) ∨
    ∃ options settings, Accepted t around arguments options settings ∧
      runAlong course t around arguments = perform course t around options := by
  unfold runAlong
  cases hread : Options.read arguments with
  | error stop =>
    have hnone (options : Options) (settings : Settings) :
        ¬ Accepted t around arguments options settings := by
      intro h
      have hok := h.read
      rw [hread] at hok
      contradiction
    cases stop with
    | help => exact .inl ⟨.helped hread, hnone⟩
    | version => exact .inl ⟨.versioned hread, hnone⟩
    | usage error => exact .inl ⟨.refused hread, hnone⟩
  | ok options =>
    cases hload : loadSettings t around options with
    | error halt =>
      have hnone (others : Options) (settings : Settings) :
          ¬ Accepted t around arguments others settings := by
        intro h
        cases hread.symm.trans h.read
        have hok := h.loaded
        rw [hload] at hok
        contradiction
      dsimp only [perform]
      rw [hload]
      cases halt with
      | failed report => exact .inl ⟨.failed hread hload, hnone⟩
      | crashed => exact .inl ⟨.crashed hread hload, hnone⟩
    | ok settings => exact .inr ⟨options, settings, ⟨hread, hload⟩, rfl⟩

variable (course : Course)

theorem calls_perform (h : loadSettings t around options = .ok settings) :
    (perform course t around options).calls = (work course around.machine settings options).calls := by
  unfold perform
  rw [h]
  dsimp only
  split <;> rfl

/-- With settings, the work decides how a run ends and what it prints. -/
theorem perform_cases (h : loadSettings t around options = .ok settings) :
    (∃ text, (work course around.machine settings options).result = .ok text ∧
      (perform course t around options).exit = 0 ∧
      (perform course t around options).printed = [text]) ∨
    ∃ report, (work course around.machine settings options).result = .error report ∧
      (perform course t around options).exit = 1 ∧ (perform course t around options).printed = [] := by
  unfold perform
  rw [h]
  dsimp only
  cases hresult : (work course around.machine settings options).result with
  | ok text => simp [RunResult.printed, shownLogs]
  | error report => simp [RunResult.printed, shownLogs]

/-- Another machine that agrees about the permitted calls makes the same run. -/
theorem runAlong_congr {others : Machine}
    (h : ∀ options settings call, Accepted t around arguments options settings →
      Permitted around.machine settings options call → around.machine.Agree others call) :
    runAlong course t { around with machine := others } arguments =
      runAlong course t around arguments := by
  unfold runAlong
  cases hread : Options.read arguments with
  | error stop => cases stop <;> rfl
  | ok options =>
    have hload : loadSettings t { around with machine := others } options =
        loadSettings t around options := rfl
    dsimp only
    unfold perform
    rw [hload]
    cases hsettings : loadSettings t around options with
    | error halt => cases halt <;> rfl
    | ok settings =>
      dsimp only
      rw [work_congr course fun call => h options settings call ⟨hread, hsettings⟩]

/-- The line for a process that was inserted, or the text of a summary. -/
def IsResult (text : String) : Prop :=
  (∃ (p : Pid) (mapPath : String), text = s!"Added PID {p} to the BPF map at {mapPath}.") ∨
    ∃ s : Summary, text = s.text

theorem Reports.isResult {machine : Machine} {text : String}
    (h : Reports machine settings options text) : IsResult text := by
  unfold Reports at h
  split at h
  · obtain ⟨listing, s, -, -, htext⟩ := h
    exact .inr ⟨s, htext⟩
  · rename_i p hpid
    exact .inl ⟨p, options.mapPath, h⟩

theorem head?_helpText : Options.helpText.toList.head? = some 'p' := by
  unfold Options.helpText
  rw [String.intercalate_cons_cons]
  simp only [String.toList_append]
  rfl

/-- What a run says about itself begins with the name of the command, as no result does. -/
theorem head?_of_isResult {text : String} (h : IsResult text) : text.toList.head? ≠ some 'p' := by
  rcases h with ⟨p, mapPath, rfl⟩ | ⟨s, rfl⟩
  · simp only [String.toList_append]
    change some 'A' ≠ some 'p'
    decide
  · unfold Summary.text
    split
    · decide
    · simp only [String.toList_append]
      change some 'd' ≠ some 'p'
      decide

theorem Declined.not_isResult {r : RunResult} (h : Declined t around arguments r) :
    ∀ text ∈ r.printed, ¬ IsResult text := by
  intro text htext hresult
  have hhead := head?_of_isResult hresult
  cases h with
  | helped hread =>
    obtain rfl := List.mem_singleton.mp htext
    exact hhead head?_helpText
  | versioned hread =>
    obtain rfl := List.mem_singleton.mp htext
    exact hhead rfl
  | refused hread => simp [CommandLine.refused, RunResult.printed] at htext
  | failed hread hload => simp [RunResult.printed] at htext
  | crashed hread hload => simp [CommandLine.crashed, RunResult.printed] at htext

theorem Declined.calls_eq {r : RunResult} (h : Declined t around arguments r) : r.calls = [] := by
  cases h <;> rfl

theorem Declined.exit_cases {r : RunResult} (h : Declined t around arguments r) :
    (r.exit = 0 ∨ r.exit = 1 ∨ r.exit = 101) ∧
      (r.exit = 0 ↔
        Options.read arguments = .error .help ∨ Options.read arguments = .error .version) ∧
      (r.exit = 101 ↔ Crashes t around arguments) := by
  cases h with
  | helped hread => simp [printing, hread, not_crashes_of_stop hread]
  | versioned hread => simp [printing, hread, not_crashes_of_stop hread]
  | refused hread => simp [CommandLine.refused, hread, not_crashes_of_stop hread]
  | failed hread hload => simp [hread, crashes_iff hread, hload]
  | crashed hread hload => simp [CommandLine.crashed, hread, crashes_iff hread, hload]

theorem performed_cases (h : loadSettings t around options = .ok settings) :
    (Achieved around.machine settings options ∧ (perform course t around options).exit = 0 ∧
      ∃ text, (perform course t around options).printed = [text] ∧
        Reports around.machine settings options text) ∨
    (¬ Achieved around.machine settings options ∧ (perform course t around options).exit = 1 ∧
      (perform course t around options).printed = []) := by
  rcases perform_cases course h with ⟨text, hresult, hexit, hprinted⟩ | ⟨report, hresult, hexit, hprinted⟩
  · obtain ⟨hachieved, hreports⟩ := (work_eq_ok_iff course).mp hresult
    exact .inl ⟨hachieved, hexit, text, hprinted, hreports⟩
  · refine .inr ⟨?_, hexit, hprinted⟩
    intro hachieved
    obtain ⟨text, hreports⟩ := exists_reports hachieved
    have hok := (work_eq_ok_iff course).mpr ⟨hachieved, hreports⟩
    rw [hresult] at hok
    contradiction

/-- What a run comes to. The exit status is 0 if help or version was asked for, or if the options are
accepted, the settings are there and the work is achieved; it is 101 if the load of the settings
crashes, and 1 in every other case. The calls are those that the work permits, as far as their programs
run to their end, and what a machine would do with any other call does not matter. A result is printed
exactly for accepted options with settings when the exit status is 0; nothing is printed beside it, and
it tells what the work has come to. -/
structure RunOutcome (course : Course) (t : Settings.Traversal) (around : Surroundings)
    (arguments : List String) (r : RunResult) : Prop where
  exit_cases : r.exit = 0 ∨ r.exit = 1 ∨ r.exit = 101
  exit_zero_iff : r.exit = 0 ↔ Options.read arguments = .error .help ∨
    Options.read arguments = .error .version ∨
    ∃ options settings, Accepted t around arguments options settings ∧
      Achieved around.machine settings options
  exit_crashed_iff : r.exit = 101 ↔ Crashes t around arguments
  mem_calls_iff : ∀ call, call ∈ r.calls ↔
    ∃ options settings, Accepted t around arguments options settings ∧
      Permitted around.machine settings options call ∧
      (attempt around.machine call.program call.arguments).ran = true
  others_alike : ∀ others : Machine,
    (∀ options settings call, Accepted t around arguments options settings →
      Permitted around.machine settings options call → around.machine.Agree others call) →
    runAlong course t { around with machine := others } arguments = r
  result_printed_iff : (∃ text ∈ r.printed, IsResult text) ↔
    (∃ options settings, Accepted t around arguments options settings) ∧ r.exit = 0
  printed_eq : ∀ options settings, Accepted t around arguments options settings → r.exit = 0 →
    ∃ text, r.printed = [text] ∧ Reports around.machine settings options text

theorem Declined.outcome (h : Declined t around arguments (runAlong course t around arguments))
    (hnone : ∀ options settings, ¬ Accepted t around arguments options settings) :
    RunOutcome course t around arguments (runAlong course t around arguments) where
  exit_cases := h.exit_cases.1
  exit_zero_iff := by
    rw [h.exit_cases.2.1]
    simp [hnone]
  exit_crashed_iff := h.exit_cases.2.2
  mem_calls_iff call := by simp [h.calls_eq, hnone]
  others_alike others := runAlong_congr course
  result_printed_iff := by
    constructor
    · intro hprinted
      obtain ⟨text, htext, hresult⟩ := hprinted
      exact absurd hresult (h.not_isResult text htext)
    · intro haccepted
      obtain ⟨⟨options, settings, haccepted⟩, -⟩ := haccepted
      exact absurd haccepted (hnone options settings)
  printed_eq options settings haccepted := absurd haccepted (hnone options settings)

theorem Accepted.outcome (h : Accepted t around arguments options settings) :
    RunOutcome course t around arguments (perform course t around options) where
  exit_cases := by
    rcases performed_cases course h.loaded with ⟨-, hexit, -⟩ | ⟨-, hexit, -⟩
    · exact .inl hexit
    · exact .inr (.inl hexit)
  exit_zero_iff := by
    have hread : Options.read arguments = .ok options := h.read
    rw [h.exists_iff (P := fun options settings => Achieved around.machine settings options)]
    rcases performed_cases course h.loaded with ⟨hdone, hexit, -⟩ | ⟨hdone, hexit, -⟩
    · simp [hexit, hdone]
    · simp [hexit, hdone, hread]
  exit_crashed_iff := by
    refine iff_of_false ?_ h.not_crashes
    rcases performed_cases course h.loaded with ⟨-, hexit, -⟩ | ⟨-, hexit, -⟩
    · simp [hexit]
    · simp [hexit]
  mem_calls_iff call := by
    rw [h.exists_iff (P := fun options settings =>
      Permitted around.machine settings options call ∧
        (attempt around.machine call.program call.arguments).ran = true)]
    rw [calls_perform course h.loaded, mem_calls_work]
  others_alike others hagree := by
    have hrun : runAlong course t around arguments = perform course t around options := by
      simp only [runAlong, h.read]
    exact (runAlong_congr course hagree).trans hrun
  result_printed_iff := by
    rcases performed_cases course h.loaded with
      ⟨-, hexit, text, hprinted, hreports⟩ | ⟨-, hexit, hprinted⟩
    · exact iff_of_true ⟨text, by simp [hprinted], hreports.isResult⟩ ⟨⟨options, settings, h⟩, hexit⟩
    · simp [hexit, hprinted]
  printed_eq others otherSettings hother hzero := by
    obtain ⟨rfl, rfl⟩ := h.unique hother
    rcases performed_cases course h.loaded with ⟨-, -, hprinted⟩ | ⟨-, hexit, -⟩
    · exact hprinted
    · rw [hexit] at hzero
      contradiction

/-- Every run comes to its outcome, whatever its arguments, its settings and the programs. -/
theorem run_outcome (course : Course) (t : Settings.Traversal) (around : Surroundings)
    (arguments : List String) :
    RunOutcome course t around arguments (runAlong course t around arguments) := by
  rcases declined_or_accepted course t around arguments with
    ⟨hdeclined, hnone⟩ | ⟨options, settings, haccepted, hrun⟩
  · exact hdeclined.outcome course hnone
  · rw [hrun]
    exact haccepted.outcome course

/-- Process 7 is inserted with the default settings: one call of the map tool, none of the listing
tool, although both are there. -/
theorem run_outcome_of_insertion :
    let machine : Machine := ⟨fun _ _ => .finished ⟨.ofExit 0, [], []⟩, fun program _ => program⟩
    let around : Surroundings := ⟨machine, ⟨[], []⟩, ⟨[], true⟩⟩
    let r := runAlong Course.eager .asGiven around ["--pid", "7", "/map"]
    r.exit = 0 ∧ r.printed = ["Added PID 7 to the BPF map at /map."] ∧
      (∀ call, call ∈ r.calls ↔ call = ⟨"/sbin/bpftool", MapTool.entryArguments "/map" 7⟩) ∧
      ∀ others : Machine,
        machine.Agree others ⟨"/sbin/bpftool", MapTool.entryArguments "/map" 7⟩ →
        runAlong Course.eager .asGiven { around with machine := others } ["--pid", "7", "/map"] = r := by
  intro machine around r
  have haccepted : Accepted .asGiven around ["--pid", "7", "/map"] ⟨none, false, some 7, "/map"⟩
      ⟨"/sbin/bpftool", "ss", 10000, 1⟩ := ⟨rfl, rfl⟩
  have houtcome : RunOutcome Course.eager .asGiven around ["--pid", "7", "/map"] r := run_outcome ..
  have hzero : r.exit = 0 := houtcome.exit_zero_iff.mpr <| .inr <| .inr
    ⟨_, _, haccepted, by decide, .inr ⟨_, rfl, rfl⟩⟩
  obtain ⟨text, htext, hreports⟩ := houtcome.printed_eq _ _ haccepted hzero
  refine ⟨hzero, ?_, ?_, ?_⟩
  · rw [htext, show text = _ from hreports]
    rfl
  · intro call
    rw [houtcome.mem_calls_iff, haccepted.exists_iff (P := fun options settings =>
      Permitted around.machine settings options call ∧
        (attempt around.machine call.program call.arguments).ran = true)]
    constructor
    · intro h
      exact h.1.2.2
    · intro h
      subst h
      exact ⟨⟨rfl, by decide, rfl⟩, rfl⟩
  · intro others hagree
    apply houtcome.others_alike
    intro options settings call hother hpermitted
    obtain ⟨rfl, rfl⟩ := haccepted.unique hother
    rw [hpermitted.2.2]
    exact hagree

/-- A settings file with an index in front of the first element crashes every run that loads it, in
whatever order names are taken, so that not every run ends with status 0 or 1. -/
theorem index_before_first_crashes_run :
    let content := "\"x[-1]\" = 1\n".toList.map fun c => UInt8.ofNat c.toNat
    let files : Settings.Files := Folder.ofList [("c.toml", some content)]
    let arguments := ["--config", "c.toml", "--pid", "7", "/map"]
    (∀ course t machine, runAlong course t ⟨machine, files, ⟨[], true⟩⟩ arguments = crashed) ∧
      ¬ ∀ course t around arguments, (runAlong course t around arguments).exit = 0 ∨
        (runAlong course t around arguments).exit = 1 := by
  intro content files arguments
  have hlocated : Settings.File.locate? files "c.toml" = some ("c.toml", content) := by decide +kernel
  have hentries : Settings.documentEntries? content = some [("x[-1]", .integer 1)] := by decide +kernel
  have hfile : Settings.FileGives files "c.toml" true [("x[-1]", .integer 1)] :=
    .document hlocated hentries
  obtain ⟨-, origin, hfields⟩ := hfile.fields
  have hpath : Settings.KeyPath.ofName "x[-1]" = [.key "x", .index (-1)] := by decide +kernel
  have hrun (course : Course) (t : Settings.Traversal) (machine : Machine) :
      runAlong course t ⟨machine, files, ⟨[], true⟩⟩ arguments = crashed := by
    have hload : loadSettings t ⟨machine, files, ⟨[], true⟩⟩ ⟨some "c.toml", false, some 7, "/map"⟩ =
        .error .crashed := by
      refine loadSettings_eq_crashed_iff.mpr ⟨_, hfields, .file ?_⟩
      refine ⟨[], ("x[-1]", .scalar origin (.integer 1)), [], _, rfl, rfl, ?_⟩
      rw [hpath]
      exact .under (.here (.inl (by decide)))
    have hread : Options.read arguments = .ok ⟨some "c.toml", false, some 7, "/map"⟩ := rfl
    simp only [runAlong, hread, perform, hload]
  refine ⟨hrun, ?_⟩
  intro hall
  have hexit := hall Course.eager .asGiven
    ⟨⟨fun _ _ => .missing, fun program _ => program⟩, files, ⟨[], true⟩⟩ arguments
  rw [hrun] at hexit
  exact absurd hexit (by decide)

end CommandLine
end SocketCensus
