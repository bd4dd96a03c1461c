import SocketCensus.Log
import SocketCensus.Program.Duration
import SocketCensus.Program.SystemError
import SocketCensus.Program.WaitStatus
import SocketCensus.Text.Blank
import SocketCensus.Text.Utf8

/-!
Running external programs. A machine says what becomes of a program started with given
arguments; a launch classifies its answer, keeps the output, and records the call if the
program ran to its end.
-/
namespace SocketCensus

structure Finished where
  status : WaitStatus
  stdout : List UInt8
  stderr : List UInt8

inductive Reply
  | missing
  | unstartable (error : StartError)
  | outlived
  | finished (result : Finished)

structure Machine where
  reply : (program : String) → (arguments : List String) → Reply
  /-- The command as the log shows it, with the path at which the program was found. -/
  command : (program : String) → (arguments : List String) → String

instance : CoeFun Machine fun _ => String → List String → Reply := ⟨Machine.reply⟩

structure Call where
  program : String
  arguments : List String
  deriving DecidableEq, Repr

inductive LaunchError
  | notFound (program : String)
  | spawn (program : String) (error : StartError)
  | timeout (program : String) (limit : Duration)
  deriving DecidableEq, Repr

inductive ToolError
  | launch (error : LaunchError)
  | failed (program : String) (status : WaitStatus) (diagnostic : String)
  deriving DecidableEq, Repr

def missingText : String := "cannot find binary path"

def LaunchError.message : LaunchError → String
  | .notFound program => s!"could not find {program}: {missingText}"
  | .spawn program error => s!"could not execute {program}: {error.message}"
  | .timeout program limit => s!"{program} did not finish within {limit.text}"

def ToolError.message : ToolError → String
  | .launch error => error.message
  | .failed program status diagnostic => s!"{program} exited with {status.text}: {diagnostic}"

def LaunchError.causes (e : LaunchError) : List String :=
  match e with
  | .notFound _ => [e.message, missingText]
  | .spawn _ error => [e.message, error.message]
  | .timeout .. => [e.message]

def ToolError.causes (e : ToolError) : List String :=
  match e with
  | .launch error => error.causes
  | .failed .. => [e.message]

/-- A result together with the calls made and the messages logged on the way to it. -/
structure Traced (α : Type) where
  value : α
  calls : List Call
  logs : List Log.Entry

def Traced.silent {α : Type} (value : α) : Traced α := ⟨value, [], []⟩

def Finished.diagnostic (f : Finished) : String :=
  String.ofList (Text.trim (Utf8.decodeLossy f.stderr))

/-- An argument ends at its first zero byte, so none may hold one. -/
def canBePassed (argument : String) : Bool := !argument.toList.contains '\x00'

/-- What becomes of a program, missing or else started with arguments that can be passed. -/
def attempt (machine : Machine) (program : String) (arguments : List String) : Reply :=
  match machine program arguments with
  | .missing => .missing
  | reply => if arguments.all canBePassed then reply else .unstartable .zeroByte

/-- A program that is found is announced before it is started. -/
def launch (machine : Machine) (limit : Duration) (program : String)
    (arguments : List String) : Traced (Except LaunchError Finished) :=
  let running := Log.debug s!"running {machine.command program arguments}"
  match attempt machine program arguments with
  | .missing => .silent (.error (.notFound program))
  | .unstartable error => ⟨.error (.spawn program error), [], [running]⟩
  | .outlived => ⟨.error (.timeout program limit), [], [running]⟩
  | .finished result => ⟨.ok result, [⟨program, arguments⟩], [running]⟩

/-- The result of a tool counts only if it ended with success. -/
def runTool (machine : Machine) (limit : Duration) (program : String)
    (arguments : List String) : Traced (Except ToolError Finished) :=
  let run := launch machine limit program arguments
  let value : Except ToolError Finished :=
    match run.value with
    | .error e => .error (.launch e)
    | .ok result =>
      if result.status.success then .ok result
      else .error (.failed program result.status result.diagnostic)
  ⟨value, run.calls, run.logs⟩

end SocketCensus
