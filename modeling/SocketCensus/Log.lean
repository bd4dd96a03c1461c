/-!
Log messages. An entry has a level and a text; a reader who asks for less detail sees the
entries of the higher levels only.
-/
namespace SocketCensus.Log

inductive Level
  | debug
  | info
  | warn
  deriving DecidableEq, Repr

def Level.name : Level → String
  | .debug => "DEBUG"
  | .info => "INFO"
  | .warn => "WARN"

structure Entry where
  level : Level
  message : String
  deriving DecidableEq, Repr

def debug (message : String) : Entry := ⟨.debug, message⟩

def info (message : String) : Entry := ⟨.info, message⟩

def warn (message : String) : Entry := ⟨.warn, message⟩

def Entry.text (e : Entry) : String := e.level.name ++ " " ++ e.message

/-- Whether the entry is shown; debugging entries are shown on demand. -/
def Entry.shown (verbose : Bool) (e : Entry) : Bool := verbose || e.level != .debug

end SocketCensus.Log
