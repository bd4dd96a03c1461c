import SocketCensus.Entry.MapTool
import SocketCensus.Entry.TrafficMap

/-!
Writing the entry of one process: its key with zeroed counters. A process whose number has no
key is refused before any update is attempted.
-/
namespace SocketCensus

abbrev Updater := Key → Counters → Traced (Except ToolError Unit)

inductive WriteError
  | outOfRange (error : OutOfRange)
  | update (error : ToolError)
  deriving DecidableEq, Repr

def WriteError.message : WriteError → String
  | .outOfRange error => error.message
  | .update error => error.message

def WriteError.causes : WriteError → List String
  | .outOfRange error => [error.message]
  | .update error => error.causes

def MapTool.updater (tool : MapTool) (machine : Machine) (mapPath : String) : Updater :=
  fun key value => tool.update machine mapPath key.bytes value.bytes

/-- A map and the means to update it. -/
structure Target where
  mapPath : String
  updater : Updater

def MapTool.target (tool : MapTool) (machine : Machine) (mapPath : String) : Target :=
  ⟨mapPath, tool.updater machine mapPath⟩

structure Update where
  mapPath : String
  key : Key
  value : Counters
  deriving DecidableEq

namespace Target

/-- The update that writes the entry of a process: its key, with zeroed counters. -/
def update? (t : Target) (p : Pid) : Except OutOfRange Update :=
  match Key.ofPid p with
  | .error e => .error e
  | .ok key => .ok ⟨t.mapPath, key, Counters.zero⟩

def answer (t : Target) (u : Update) : Traced (Except ToolError Unit) := t.updater u.key u.value

def outcome (t : Target) (p : Pid) : Except WriteError Unit :=
  match t.update? p with
  | .error e => .error (.outOfRange e)
  | .ok u =>
    match (t.answer u).value with
    | .error e => .error (.update e)
    | .ok () => .ok ()

/-- The update behind a write, with its trace; nothing for a process without a key. -/
def updateTrace (t : Target) (p : Pid) : Traced Unit :=
  match t.update? p with
  | .error _ => .silent ()
  | .ok u => ⟨(), (t.answer u).calls, (t.answer u).logs⟩

/-- The map after a write: a successful update sets its entry, any other leaves the map alone. -/
def commit (t : Target) (m : TrafficMap) (p : Pid) : TrafficMap :=
  match t.update? p, t.outcome p with
  | .ok u, .ok () => m.set u.key u.value
  | _, _ => m

def write (t : Target) (p : Pid) : Traced (Except WriteError Unit) :=
  let trace := t.updateTrace p
  match t.outcome p with
  | .error e => ⟨.error e, trace.calls, trace.logs⟩
  | .ok () => ⟨.ok (), trace.calls, trace.logs ++ [Log.debug s!"added PID {p} to {t.mapPath}"]⟩

theorem update?_eq_ok_iff {t : Target} {p : Pid} {u : Update} :
    t.update? p = .ok u ↔ ∃ key, Key.ofPid p = .ok key ∧ u = ⟨t.mapPath, key, Counters.zero⟩ := by
  unfold update?
  cases Key.ofPid p with
  | error e => simp
  | ok key => simp [eq_comm]

theorem update?_eq_error_iff {t : Target} {p : Pid} {e : OutOfRange} :
    t.update? p = .error e ↔ Key.ofPid p = .error e := by
  unfold update?
  cases Key.ofPid p with
  | error e => simp
  | ok key => simp

theorem fits_of_update? {t : Target} {p : Pid} {u : Update} (h : t.update? p = .ok u) :
    Key.Fits p := by
  obtain ⟨key, hkey, -⟩ := update?_eq_ok_iff.mp h
  exact (Key.ofPid_eq_ok_iff.mp hkey).1

theorem update?_eq_error_iff_not_fits {t : Target} {p : Pid} {e : OutOfRange} :
    t.update? p = .error e ↔ ¬ Key.Fits p ∧ e = ⟨p⟩ :=
  update?_eq_error_iff.trans Key.ofPid_eq_error_iff

theorem exists_update? (t : Target) {p : Pid} (h : Key.Fits p) : ∃ u, t.update? p = .ok u := by
  cases hupdate : t.update? p with
  | error e => exact absurd h (update?_eq_error_iff_not_fits.mp hupdate).1
  | ok u => exact ⟨u, rfl⟩

/-- A write succeeds if there is an update to be made and the updater accepts it. -/
theorem outcome_eq_ok_iff {t : Target} {p : Pid} :
    t.outcome p = .ok () ↔ ∃ u, t.update? p = .ok u ∧ (t.answer u).value = .ok () := by
  unfold outcome
  cases t.update? p with
  | error e => simp
  | ok u =>
    cases hvalue : (t.answer u).value with
    | error e => simp [hvalue]
    | ok x => simp [hvalue]

/-- A write fails for want of a key, or with the very error that the updater answers. -/
theorem outcome_eq_error_iff {t : Target} {p : Pid} {e : WriteError} :
    t.outcome p = .error e ↔ (∃ cause, t.update? p = .error cause ∧ e = .outOfRange cause) ∨
      ∃ u cause, t.update? p = .ok u ∧ (t.answer u).value = .error cause ∧ e = .update cause := by
  unfold outcome
  cases t.update? p with
  | error cause => simp [eq_comm]
  | ok u =>
    cases hvalue : (t.answer u).value with
    | error cause => simp [hvalue, eq_comm]
    | ok x => simp [hvalue]

theorem value_write (t : Target) (p : Pid) : (t.write p).value = t.outcome p := by
  unfold write
  split <;> simp [*]

theorem calls_write (t : Target) (p : Pid) : (t.write p).calls = (t.updateTrace p).calls := by
  unfold write
  split <;> rfl

def insert (t : Target) (p : Pid) : Traced (Except WriteError Unit) :=
  let written := t.write p
  match written.value with
  | .error _ => written
  | .ok () =>
    { written with logs := written.logs ++ [Log.info s!"added PID {p} to the BPF map at {t.mapPath}"] }

/-- An insertion is a write that is reported, and nothing else. -/
theorem value_insert (t : Target) (p : Pid) : (t.insert p).value = t.outcome p := by
  rw [← value_write]
  unfold insert
  dsimp only
  split <;> rfl

theorem calls_insert (t : Target) (p : Pid) : (t.insert p).calls = (t.write p).calls := by
  unfold insert
  dsimp only
  split <;> rfl

end Target
end SocketCensus
