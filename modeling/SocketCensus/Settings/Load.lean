import SocketCensus.Program.Duration
import SocketCensus.Settings.Conversion
import SocketCensus.Settings.Source
import SocketCensus.Settings.Traversal

/-!
The settings of a run. File and environment are merged into one table, the environment last,
and that table is laid over the defaults; then every setting is converted on its own. A file
that is absent or no text is an error only where a file is required. A name that cannot be followed
to its end, or a variable that cannot be read, ends a load without an error to report.
-/
namespace SocketCensus

structure Settings where
  bpftoolPath : String
  ssPath : String
  commandTimeoutMs : Nat
  writeConcurrency : Nat
  deriving DecidableEq, Repr

inductive SettingsError
  | fileNotFound (path : String)
  | fileNotText
  | fileMalformed
  | wrongType (error : Settings.TypeError)
  | zeroTimeout
  deriving DecidableEq, Repr

def SettingsError.message : SettingsError → String
  | .fileNotFound path => s!"configuration file \"{path}\" not found"
  | .fileNotText => "stream did not contain valid UTF-8"
  | .fileMalformed => "malformed settings file"
  | .wrongType error => error.message
  | .zeroTimeout => "command_timeout_ms must be greater than 0"

namespace Settings

inductive LoadFailure
  | refused (error : SettingsError)
  | crashed
  deriving DecidableEq, Repr

def bpftoolPathKey : String := "bpftool_path"

def ssPathKey : String := "ss_path"

def commandTimeoutKey : String := "command_timeout_ms"

def writeConcurrencyKey : String := "write_concurrency"

def keys : List String := [bpftoolPathKey, ssPathKey, commandTimeoutKey, writeConcurrencyKey]

def defaults : Fields :=
  [(bpftoolPathKey, .scalar none (.text "/sbin/bpftool")),
   (ssPathKey, .scalar none (.text "ss")),
   (commandTimeoutKey, .scalar none (.integer 10000)),
   (writeConcurrencyKey, .scalar none (.integer 1))]

/-- The fields of the settings file; none if it is absent and not required. -/
def fileFields (files : Files) (path : String) (required : Bool) : Except SettingsError Fields :=
  match File.locate? files path with
  | none => if required then .error (.fileNotFound path) else .ok []
  | some (name, content) =>
    match Utf8.decode? content with
    | none => if required then .error .fileNotText else .ok []
    | some text =>
      match Toml.parse? text with
      | none => .error .fileMalformed
      | some (.table fields) => .ok (fieldsOf (some name) fields)
      | some _ => .ok []

def applyFields? (room : Nat) (fields : Fields) (node : Node) : Option Node :=
  fields.foldlM (fun node f => Node.setAt? room f.2 (KeyPath.ofName f.1) node) node

def inOrder (rank : String → Nat) (fields : Fields) : Fields := arrange (fun f => rank f.1) fields

def overDefaults (given : Node) : Node :=
  Node.mergeFields
    (match given with
      | .table _ fields => fields
      | _ => [])
    (.table none defaults)

/-- The table of all raw settings. The file is gone through once by itself before it is merged with the
environment. -/
def rawTable? (t : Traversal) (fileFields : Fields) (env : Environment) : Option Node := do
  let _ ← applyFields? t.room (inOrder t.file fileFields) Node.emptyTable
  let fromFile ← applyFields? t.room (inOrder t.fileAgain fileFields) Node.emptyTable
  let envFields ← env.fields?
  let given ← applyFields? t.room (inOrder t.environment envFields) fromFile
  return overDefaults given

def rawSetting (raw : Node) (key : String) : Node := (raw.get? key).getD Node.absent

def readSetting (raw : Node) (key : String) : Except TypeError Setting :=
  if key = bpftoolPathKey ∨ key = ssPathKey then (readText key (rawSetting raw key)).map .text
  else (readCount key (rawSetting raw key)).map .count

def fault? (raw : Node) (key : String) : Option TypeError :=
  match readSetting raw key with
  | .error e => some e
  | .ok _ => none

/-- All settings converted. Of several faults the first one that is met is the error. -/
def convert (t : Traversal) (raw : Node) : Except TypeError Settings :=
  match (arrange t.conversion keys).findSome? (fault? raw) with
  | some e => .error e
  | none => do
    return {
      bpftoolPath := ← readText bpftoolPathKey (rawSetting raw bpftoolPathKey)
      ssPath := ← readText ssPathKey (rawSetting raw ssPathKey)
      commandTimeoutMs := ← readCount commandTimeoutKey (rawSetting raw commandTimeoutKey)
      writeConcurrency := ← readCount writeConcurrencyKey (rawSetting raw writeConcurrencyKey) }

def load (t : Traversal) (files : Files) (env : Environment) (path : String) (required : Bool) :
    Except LoadFailure Settings :=
  match fileFields files path required with
  | .error e => .error (.refused e)
  | .ok fields =>
    match rawTable? t fields env with
    | none => .error .crashed
    | some raw =>
      match convert t raw with
      | .error e => .error (.refused (.wrongType e))
      | .ok s => if s.commandTimeoutMs = 0 then .error (.refused .zeroTimeout) else .ok s

def timeout (s : Settings) : Duration := .ofMillis s.commandTimeoutMs

def text (s : Settings) : String :=
  s!"Settings \x7b bpftool_path: {Text.quote s.bpftoolPath}, ss_path: {Text.quote s.ssPath}, " ++
    s!"command_timeout_ms: {s.commandTimeoutMs}, write_concurrency: {s.writeConcurrency} \x7d"

end Settings
end SocketCensus
