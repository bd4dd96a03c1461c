import SocketCensus.Entry.Key

/-!
The window of a pass: processes wait to be written, some are being written, the others are
finished. At most a fixed number may be in the window at once, whether or not they can be
written; a move takes the next one in or lets one that is in go.
-/
namespace SocketCensus

structure Window where
  waiting : List Pid
  running : List Pid
  finished : List Pid
  deriving DecidableEq, Repr

inductive Move
  | start (p : Pid)
  | finish (p : Pid)
  deriving DecidableEq, Repr

namespace Window

def opening (ps : List Pid) : Window := ⟨ps, [], []⟩

/-- A start is allowed for the first that waits while there is room, a finish for any that
runs. -/
def move? (limit : Nat) (w : Window) : Move → Option Window
  | .start p =>
    match w.waiting with
    | [] => none
    | q :: rest =>
      if q = p ∧ w.running.length < limit then some ⟨rest, w.running ++ [p], w.finished⟩ else none
  | .finish p =>
    if p ∈ w.running then some ⟨w.waiting, w.running.erase p, w.finished ++ [p]⟩ else none

def Ended (w : Window) : Prop := w.waiting = [] ∧ w.running = []

/-- Moves made one after the other, each of them allowed when it is made, and each with the
window after it. -/
inductive Run (limit : Nat) : Window → List (Move × Window) → Window → Prop
  | nil (w : Window) : Run limit w [] w
  | cons {w next last : Window} {m : Move} {rest : List (Move × Window)} :
      w.move? limit m = some next → Run limit next rest last → Run limit w ((m, next) :: rest) last

/-- The updates in progress: a process without a key takes room but starts no update. -/
def updating (w : Window) : List Pid := w.running.filter fun p => decide (Key.Fits p)

def debt (w : Window) : Nat := 2 * w.waiting.length + w.running.length

/-- The eager choice: let no update finish while something else can be done, and of the
updates let the oldest finish first. -/
def eager (limit : Nat) (w : Window) : Option Move :=
  match w.waiting with
  | p :: _ =>
    if w.running.length < limit then some (.start p) else leave w
  | [] => leave w
where
  leave (w : Window) : Option Move :=
    match w.running.find? fun p => !decide (Key.Fits p) with
    | some p => some (.finish p)
    | none => w.running.head?.map .finish

def eagerRun (limit : Nat) : (count : Nat) → Window → List (Move × Window)
  | 0, _ => []
  | count + 1, w =>
    match eager limit w with
    | none => []
    | some m =>
      match w.move? limit m with
      | none => []
      | some next => (m, next) :: eagerRun limit count next

def peak (run : List (Move × Window)) : Nat :=
  run.foldl (fun most step => max most step.2.updating.length) 0

variable {limit : Nat} {w next : Window} {m : Move}

/-- What a move can do: let the first that waits in while there is room, or let one that runs go. -/
theorem move?_cases (h : w.move? limit m = some next) :
    (∃ p rest, m = .start p ∧ w.waiting = p :: rest ∧ w.running.length < limit ∧
      next = ⟨rest, w.running ++ [p], w.finished⟩) ∨
    ∃ p ∈ w.running, m = .finish p ∧
      next = ⟨w.waiting, w.running.erase p, w.finished ++ [p]⟩ := by
  cases m with
  | start p =>
    simp only [move?] at h
    split at h
    · contradiction
    · rename_i q rest hwaiting
      split at h
      · rename_i hallowed
        obtain ⟨rfl, hroom⟩ := hallowed
        exact Or.inl ⟨q, rest, rfl, hwaiting, hroom, (Option.some.inj h).symm⟩
      · contradiction
  | finish p =>
    simp only [move?] at h
    split at h
    · rename_i hp
      exact Or.inr ⟨p, hp, rfl, (Option.some.inj h).symm⟩
    · contradiction

theorem move?_start {p : Pid} {rest : List Pid} (hwaiting : w.waiting = p :: rest)
    (hroom : w.running.length < limit) :
    w.move? limit (.start p) = some ⟨rest, w.running ++ [p], w.finished⟩ := by
  simp [move?, hwaiting, hroom]

theorem move?_finish (limit : Nat) {p : Pid} (hp : p ∈ w.running) :
    w.move? limit (.finish p) = some ⟨w.waiting, w.running.erase p, w.finished ++ [p]⟩ := by
  simp [move?, hp]

theorem debt_move (h : w.move? limit m = some next) : next.debt + 1 = w.debt := by
  rcases move?_cases h with ⟨p, rest, -, hwaiting, -, rfl⟩ | ⟨p, hp, -, rfl⟩
  · simp only [debt, hwaiting, List.length_append, List.length_cons, List.length_nil]
    omega
  · have hlength := List.length_erase_of_mem hp
    have hpositive := List.length_pos_of_mem hp
    simp only [debt]
    omega

end Window
end SocketCensus
