import SocketCensus.CommandLine.ErrorReport
import SocketCensus.CommandLine.Options
import SocketCensus.Discovery.SocketTool
import SocketCensus.Pass.Reconcile
import SocketCensus.Settings.Load

/-!
A run of the command: options, settings, then either one insertion or one pass, which may take any
course. The exit status is zero exactly if help or version was asked for, or the insertion, or the
discovery of the pass, succeeded. It is 101 where the load of the settings crashes.
-/
namespace SocketCensus

structure Surroundings where
  machine : Machine
  files : Settings.Files
  environment : Settings.Environment

inductive Shown
  | log (entry : Log.Entry)
  | printed (text : String)

structure RunResult where
  exit : Nat
  output : List Shown
  errors : List String
  calls : List Call

namespace RunResult

/-- A line as a reader sees it: one carriage return at its end belongs to the line end. -/
def seen (line : String) : String := String.ofList (Text.dropReturn line.toList)

def seenLines (text : String) : List String := (ErrorReport.linesOf text).map seen

/-- A log entry shows the first line of its message. -/
def logs (r : RunResult) : List Log.Entry :=
  r.output.filterMap fun
    | .log entry => some { entry with message := (seenLines entry.message).head?.getD "" }
    | .printed _ => none

def stdout (r : RunResult) : List String :=
  r.output.flatMap fun
    | .log entry => (seenLines entry.message).drop 1
    | .printed text => seenLines text

def stderr (r : RunResult) : List String := r.errors.map seen

end RunResult

namespace CommandLine

def defaultConfig : String := "/etc/pidtrack/pidtrack.toml"

def debugVariable : String := "PIDTRACK_DEBUG"

/-- Debugging messages are shown if the variable is set, even if to nothing. -/
def isVerbose (env : Settings.Environment) : Bool := env.pairs.any fun v => v.1 == debugVariable

def printing (text : String) : RunResult := ⟨0, [.printed text], [], []⟩

def refused (error : UsageError) : RunResult := ⟨1, [], ErrorReport.linesOf error.message, []⟩

/-- A run that crashed, less the text about the crash. -/
def crashed : RunResult := ⟨101, [], [], []⟩

def shownLogs (verbose : Bool) (entries : List Log.Entry) : List Shown :=
  (entries.filter (Log.Entry.shown verbose)).map .log

structure Work where
  result : Except ErrorReport String
  calls : List Call
  logs : List Log.Entry

def insertion (target : Target) (p : Pid) : Work :=
  let inserted := target.insert p
  { result := match inserted.value with
      | .ok () => .ok s!"Added PID {p} to the BPF map at {target.mapPath}."
      | .error e => .error ⟨s!"failed to add PID {p} to the BPF map at {target.mapPath}", e.causes⟩
    calls := inserted.calls
    logs := inserted.logs }

def fullPass (course : Course) (pass : Pass) (source : Traced (Except ToolError (List Pid))) : Work :=
  let report := pass.along course source
  { result := match report.result with
      | .ok summary => .ok summary.text
      | .error e => .error ⟨"could not discover active network PIDs", e.causes⟩
    calls := report.calls
    logs := Log.info "scanning for active network PIDs" :: report.logs }

def listTool (settings : Settings) : SocketTool :=
  ⟨settings.ssPath, SocketTool.defaultArguments, settings.timeout⟩

def mapTool (settings : Settings) (options : Options) : MapTool :=
  ⟨settings.bpftoolPath, settings.timeout, options.dryRun⟩

def target (machine : Machine) (settings : Settings) (options : Options) : Target :=
  (mapTool settings options).target machine options.mapPath

def work (course : Course) (machine : Machine) (settings : Settings) (options : Options) : Work :=
  match options.pid with
  | some p => insertion (target machine settings options) p
  | none =>
    fullPass course ⟨target machine settings options, settings.writeConcurrency⟩
      ((listTool settings).discover machine)

inductive Halt
  | failed (report : ErrorReport)
  | crashed

def configPath (options : Options) : String := options.config.getD defaultConfig

/-- The settings that the options ask for. A file that was not asked for may be absent. -/
def loadSettings (t : Settings.Traversal) (around : Surroundings) (options : Options) :
    Except Halt Settings :=
  let path := configPath options
  (Settings.load t around.files around.environment path options.config.isSome).mapError fun
    | .refused e => .failed ⟨s!"could not load settings from {path}", [e.message]⟩
    | .crashed => .crashed

def perform (course : Course) (t : Settings.Traversal) (around : Surroundings)
    (options : Options) : RunResult :=
  let verbose := isVerbose around.environment
  match loadSettings t around options with
  | .error (.failed report) => ⟨1, [], report.lines, []⟩
  | .error .crashed => crashed
  | .ok settings =>
    let work := work course around.machine settings options
    let logs := shownLogs verbose (Log.debug s!"settings: {settings.text}" :: work.logs)
    match work.result with
    | .ok text => ⟨0, logs ++ [.printed text], [], work.calls⟩
    | .error report => ⟨1, logs, report.lines, work.calls⟩

/-- A run of the command with its arguments, whose load goes through the names in the given orders and
whose pass takes the given course. -/
def runAlong (course : Course) (t : Settings.Traversal) (around : Surroundings)
    (arguments : List String) : RunResult :=
  match Options.read arguments with
  | .error .help => printing Options.helpText
  | .error .version => printing Options.versionText
  | .error (.usage error) => refused error
  | .ok options => perform course t around options

def run (around : Surroundings) (arguments : List String) : RunResult :=
  runAlong Course.eager Settings.Traversal.asGiven around arguments

end CommandLine
end SocketCensus
