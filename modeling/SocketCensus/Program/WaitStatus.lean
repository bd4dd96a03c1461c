import SocketCensus.Bytes.Hex

/-!
How a child process ended, as the system reports it in one 32-bit word: the low seven bits name
a signal or are zero for an exit, and the next byte holds the exit status.
-/
namespace SocketCensus

structure WaitStatus where
  word : UInt32
  deriving DecidableEq, Repr

inductive Ending
  | exited (status : Nat)
  | stopped (signal : Nat)
  | continued
  | killed (signal : Nat) (coreDumped : Bool)
  | unrecognised (word : UInt32)
  deriving DecidableEq, Repr

namespace WaitStatus

def wordCount : Int := 4294967296

def ofInt (n : Int) : WaitStatus := ⟨UInt32.ofNat (n % wordCount).toNat⟩

/-- Of an exit status only the lowest byte is kept. -/
def ofExit (status : Int) : WaitStatus := ⟨UInt32.ofNat ((status % 256).toNat * 256)⟩

def ofSignal (signal : Nat) : WaitStatus := ⟨UInt32.ofNat (signal % 128)⟩

def signed (w : WaitStatus) : Int :=
  if (w.word.toNat : Int) < wordCount / 2 then w.word.toNat else w.word.toNat - wordCount

/-- A stop is told by its low byte, a continuation by the whole word. -/
def ending (w : WaitStatus) : Ending :=
  let n := w.word.toNat
  let second := n / 256 % 256
  if n % 128 = 0 then .exited second
  else if n % 256 = 127 then .stopped second
  else if n = 65535 then .continued
  else if n % 128 < 127 then .killed (n % 128) (128 ≤ n % 256)
  else .unrecognised w.word

/-- Success is the word zero and nothing else. -/
def success (w : WaitStatus) : Bool := w.word == 0

def exitStatus? (w : WaitStatus) : Option Nat :=
  match w.ending with
  | .exited status => some status
  | _ => none

def signalNames : List String :=
  ["SIGHUP", "SIGINT", "SIGQUIT", "SIGILL", "SIGTRAP", "SIGABRT", "SIGBUS", "SIGFPE", "SIGKILL",
   "SIGUSR1", "SIGSEGV", "SIGUSR2", "SIGPIPE", "SIGALRM", "SIGTERM", "SIGSTKFLT", "SIGCHLD",
   "SIGCONT", "SIGSTOP", "SIGTSTP", "SIGTTIN", "SIGTTOU", "SIGURG", "SIGXCPU", "SIGXFSZ",
   "SIGVTALRM", "SIGPROF", "SIGWINCH", "SIGIO", "SIGPWR", "SIGSYS"]

def signalText (signal : Nat) : String :=
  match signal with
  | 0 => "0"
  | n + 1 =>
    match signalNames[n]? with
    | some name => s!"{signal} ({name})"
    | none => toString signal

def text (w : WaitStatus) : String :=
  match w.ending with
  | .exited status => s!"exit status: {status}"
  | .stopped signal => s!"stopped (not terminated) by signal: {signalText signal}"
  | .continued => "continued (WIFCONTINUED)"
  | .killed signal coreDumped =>
    s!"signal: {signalText signal}" ++ if coreDumped then " (core dumped)" else ""
  | .unrecognised word =>
    s!"unrecognised wait status: {w.signed} 0x{String.ofList (Hex.digits word.toNat)}"

end WaitStatus
end SocketCensus
