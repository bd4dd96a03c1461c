import SocketCensus.Number.Decimal
import SocketCensus.Pid

/-!
The command line. Arguments are taken from left to right, and the first that asks for help or
is not expected ends the reading; what is missing, repeated or invalid is found at the end, the
missing map path before all else.
-/
namespace SocketCensus

structure Options where
  config : Option String
  dryRun : Bool
  pid : Option Pid
  mapPath : String
  deriving DecidableEq, Repr

inductive ValueOption
  | config
  | pid
  deriving DecidableEq, Repr

def ValueOption.usage : ValueOption → String
  | .config => "--config <config>"
  | .pid => "--pid <pid>"

inductive UsageError
  | unexpected (argument : String)
  | noMapPath
  | noValue (option : ValueOption)
  | repeated (usage : String)
  | invalidPid (fault : Decimal.Fault)
  deriving DecidableEq, Repr

def UsageError.message : UsageError → String
  | .unexpected argument =>
    s!"error: Found argument '{argument}' which wasn't expected, or isn't valid in this context"
  | .noMapPath => "error: The following required arguments were not provided:"
  | .noValue option =>
    s!"error: The argument '{option.usage}' requires a value but none was supplied"
  | .repeated usage =>
    s!"error: The argument '{usage}' was provided more than once, but cannot be used multiple times"
  | .invalidPid fault => s!"error: Invalid value for '{ValueOption.pid.usage}': {fault.message}"

inductive Stop
  | help
  | version
  | usage (error : UsageError)
  deriving DecidableEq, Repr

namespace Options

/-- The occurrences of an option and the values that they came with. -/
structure Given where
  count : Nat
  values : List String
  deriving DecidableEq, Repr

def Given.nothing : Given := ⟨0, []⟩

structure Reading where
  config : Given
  pid : Given
  dryRuns : Nat
  mapPath : Option String
  /-- The option whose value is to come next. -/
  awaited : Option ValueOption
  /-- Whether the mark was met after which nothing is an option. -/
  closed : Bool
  deriving DecidableEq, Repr

def Reading.start : Reading := ⟨.nothing, .nothing, 0, none, none, false⟩

def Reading.given (r : Reading) : ValueOption → Given
  | .config => r.config
  | .pid => r.pid

def Reading.alter (r : Reading) (f : Given → Given) : ValueOption → Reading
  | .config => { r with config := f r.config }
  | .pid => { r with pid := f r.pid }

def Reading.meet (r : Reading) (option : ValueOption) (value : Option String) : Reading :=
  let met := r.alter (fun g => ⟨g.count + 1, g.values ++ value.toList⟩) option
  { met with awaited := if value.isNone then some option else none }

def Reading.take (r : Reading) (option : ValueOption) (value : String) : Reading :=
  { r.alter (fun g => { g with values := g.values ++ [value] }) option with awaited := none }

def stripHyphens (cs : List Char) : List Char := cs.dropWhile (· == '-')

/-- A long argument: any number of hyphens, a name, and perhaps a value after an equals sign,
of which more than one counts as one. -/
def long (r : Reading) (argument : List Char) : Except Stop Reading :=
  let body := stripHyphens argument
  let name := String.ofList (body.takeWhile (· != '='))
  let value := match body.dropWhile (· != '=') with
    | [] => none
    | attached => some (String.ofList (attached.dropWhile (· == '=')))
  if name = "config" then .ok (r.meet .config value)
  else if name = "pid" then .ok (r.meet .pid value)
  else if name = "dry-run" then .ok { r with dryRuns := r.dryRuns + 1, awaited := none }
  else if name = "help" then .error .help
  else if name = "version" then .error .version
  else .error (.usage (.unexpected ("--" ++ name)))

/-- A cluster of short flags, which its first letter decides. -/
def short (letter : Char) : Except Stop Reading :=
  if letter = 'h' then .error .help
  else if letter = 'V' then .error .version
  else .error (.usage (.unexpected (String.ofList ['-', letter])))

def positional (r : Reading) (argument : List Char) : Except Stop Reading :=
  match r.mapPath with
  | none => .ok { r with mapPath := some (String.ofList argument) }
  | some _ => .error (.usage (.unexpected (String.ofList argument)))

def fresh (r : Reading) (argument : List Char) : Except Stop Reading :=
  match argument with
  | ['-', '-'] => .ok { r with closed := true }
  | '-' :: '-' :: _ => long r argument
  | '-' :: letter :: _ => short letter
  | _ => positional r argument

/-- Takes in one argument. Any argument can be the value of the PID option; the value of the
other option does not begin with a hyphen, unless it is nothing else. -/
def step (r : Reading) (argument : String) : Except Stop Reading :=
  let cs := argument.toList
  if r.closed then positional r cs
  else
    match r.awaited with
    | some .pid => .ok (r.take .pid argument)
    | some .config =>
      if cs.head? = some '-' ∧ cs ≠ ['-'] then fresh r cs else .ok (r.take .config argument)
    | none => fresh r cs

def readPid (value : String) : Except UsageError Pid :=
  (Decimal.readSigned value.toList).mapError UsageError.invalidPid

def single? (option : ValueOption) (g : Given) : Except UsageError (Option String) :=
  match g.count, g.values with
  | 0, _ => .ok none
  | _, [] => .error (.noValue option)
  | 1, value :: _ => .ok (some value)
  | _, _ => .error (.repeated option.usage)

def finish (r : Reading) : Except UsageError Options := do
  let mapPath ← match r.mapPath with
    | some path => .ok path
    | none => .error .noMapPath
  match r.awaited with
  | some option => if (r.given option).values = [] then throw (.noValue option)
  | none => pure ()
  let config ← single? .config r.config
  let pids ← r.pid.values.mapM readPid
  let _ ← single? .pid r.pid
  if 1 < r.dryRuns then throw (.repeated "--dry-run")
  return ⟨config, 0 < r.dryRuns, pids.head?, mapPath⟩

def read (arguments : List String) : Except Stop Options := do
  let r ← arguments.foldlM step Reading.start
  (finish r).mapError Stop.usage

def versionText : String := "pidtrack 0.1.0"

def helpText : String :=
  "\n".intercalate
    [versionText,
     "Adds every process with an open TCP/UDP socket to a pinned BPF traffic map, with zeroed counters",
     "",
     "USAGE:",
     "    pidtrack [FLAGS] [OPTIONS] <map-path>",
     "",
     "FLAGS:",
     "        --dry-run    Log the bpftool commands instead of running them",
     "    -h, --help       Prints help information",
     "    -V, --version    Prints version information",
     "",
     "OPTIONS:",
     "        --config <config>    Settings file [default: /etc/pidtrack/pidtrack.toml]",
     "        --pid <pid>          Add only the given PID instead of scanning sockets",
     "",
     "ARGS:",
     "    <map-path>    Path of the pinned map, e.g. /sys/fs/bpf/pid_traffic_map"]

end Options
end SocketCensus
