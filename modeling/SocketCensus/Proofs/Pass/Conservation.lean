import Mathlib.Data.List.Perm.Basic
import SocketCensus.Pass.Reconcile

/-!
The window loses nothing and doubles nothing. A move takes one process from a part of the window
to the next part, so that after any run all processes are still there, and a whole schedule
starts and finishes each of them once.
-/
namespace SocketCensus

namespace Window

variable {limit : Nat} {w next last : Window}

/-- Everything that is in the window or has left it. -/
def members (w : Window) : List Pid := w.waiting ++ w.running ++ w.finished

@[simp] theorem members_opening (ps : List Pid) : (opening ps).members = ps := by
  simp [members, opening]

theorem members_move {m : Move} (h : w.move? limit m = some next) :
    next.members.Perm w.members := by
  rcases move?_cases h with ⟨p, rest, -, hwaiting, -, rfl⟩ | ⟨p, hp, -, rfl⟩
  · have hmiddle : (rest ++ (w.running ++ [p])).Perm (p :: rest ++ w.running) := by
      rw [← List.append_assoc]
      exact List.perm_append_singleton p (rest ++ w.running)
    simpa only [members, hwaiting] using hmiddle.append_right w.finished
  · have herase : (w.running.erase p ++ (w.finished ++ [p])).Perm (w.running ++ w.finished) := by
      calc
        (w.running.erase p ++ (w.finished ++ [p])).Perm (p :: (w.running.erase p ++ w.finished)) := by
          rw [← List.append_assoc]
          exact List.perm_append_singleton p (w.running.erase p ++ w.finished)
        List.Perm _ (w.running ++ w.finished) :=
          (List.perm_cons_erase hp).symm.append_right w.finished
    simpa only [members, List.append_assoc] using herase.append_left w.waiting

theorem members_run {steps : List (Move × Window)} (h : Run limit w steps last) :
    last.members.Perm w.members := by
  induction h with
  | nil w => exact List.Perm.refl w.members
  | cons hmove _ ih => exact ih.trans (members_move hmove)

/-- A run records in its moves who has started: the first of those that waited. -/
theorem waiting_run {steps : List (Move × Window)} (h : Run limit w steps last) :
    w.waiting = Pass.started (steps.map Prod.fst) ++ last.waiting := by
  induction h with
  | nil w => rfl
  | cons hmove _ ih =>
    rcases move?_cases hmove with ⟨p, rest, rfl, hwaiting, -, rfl⟩ | ⟨p, -, rfl, rfl⟩
    · simpa [Pass.started, hwaiting] using ih
    · simpa [Pass.started] using ih

theorem finished_run {steps : List (Move × Window)} (h : Run limit w steps last) :
    last.finished = w.finished ++ Pass.finished (steps.map Prod.fst) := by
  induction h with
  | nil w => simp [Pass.finished]
  | cons hmove _ ih =>
    rcases move?_cases hmove with ⟨p, rest, rfl, -, -, rfl⟩ | ⟨p, -, rfl, rfl⟩
    · simpa [Pass.finished] using ih
    · simpa [Pass.finished, List.append_assoc] using ih

end Window

namespace Schedule

variable {limit : Nat} {ps : List Pid}

theorem started_moves (s : Schedule limit ps) : Pass.started s.moves = ps := by
  obtain ⟨last, hrun, hwaiting, -⟩ := s.ends
  have h := Window.waiting_run hrun
  rw [hwaiting, List.append_nil] at h
  exact h.symm

theorem finished_moves_perm (s : Schedule limit ps) : (Pass.finished s.moves).Perm ps := by
  obtain ⟨last, hrun, hwaiting, hrunning⟩ := s.ends
  have hmembers := Window.members_run hrun
  have hfinished : last.finished = Pass.finished s.moves := Window.finished_run hrun
  simpa [Window.members, hwaiting, hrunning, hfinished, Window.opening] using hmembers

end Schedule
end SocketCensus
