import SocketCensus.Pass.Window

/-!
Schedules of a pass. A schedule starts and finishes the write of every process, in any order
that the window allows. The eager schedule is one of them. A course settles all that a pass leaves
open: the order in which a set is gone through, and a schedule for that order.
-/
namespace SocketCensus

namespace Window

theorem leave_eq_none {w : Window} (h : w.running = []) : eager.leave w = none := by
  simp [eager.leave, h]

theorem leave_eq_finish {w : Window} (h : w.running ≠ []) :
    ∃ p ∈ w.running, eager.leave w = some (.finish p) := by
  unfold eager.leave
  split
  · rename_i p hfind
    exact ⟨p, List.mem_of_find?_eq_some hfind, rfl⟩
  · obtain ⟨p, rest, hrunning⟩ := List.exists_cons_of_ne_nil h
    exact ⟨p, by simp [hrunning], by simp [hrunning]⟩

/-- The eager choice is a move that is allowed; there is none at the end only. -/
theorem eager_cases {limit : Nat} (hlimit : 0 < limit) (w : Window) :
    (w.eager limit = none ∧ w.Ended) ∨
      ∃ m next, w.eager limit = some m ∧ w.move? limit m = some next := by
  have hfinish (h : w.running ≠ []) :
      ∃ m next, eager.leave w = some m ∧ w.move? limit m = some next := by
    obtain ⟨p, hp, hleave⟩ := leave_eq_finish h
    exact ⟨.finish p, _, hleave, move?_finish limit hp⟩
  cases hwaiting : w.waiting with
  | nil =>
    by_cases hrunning : w.running = []
    · exact .inl ⟨by simp [eager, hwaiting, leave_eq_none hrunning], hwaiting, hrunning⟩
    · exact .inr (by simpa [eager, hwaiting] using hfinish hrunning)
  | cons p rest =>
    by_cases hroom : w.running.length < limit
    · exact .inr ⟨.start p, _, by simp [eager, hwaiting, hroom], move?_start hwaiting hroom⟩
    · have hrunning : w.running ≠ [] := by
        intro hempty
        simp [hempty, hlimit] at hroom
      exact .inr (by simpa [eager, hwaiting, hroom] using hfinish hrunning)

/-- With as many moves as are to be made, the eager moves end a pass. -/
theorem eagerRun_ends {limit : Nat} (hlimit : 0 < limit) (count : Nat) (w : Window)
    (hdebt : w.debt ≤ count) : ∃ last, Run limit w (eagerRun limit count w) last ∧ last.Ended := by
  induction count generalizing w with
  | zero =>
    refine ⟨w, .nil w, ?_, ?_⟩ <;>
    · apply List.length_eq_zero_iff.mp
      simp only [debt] at hdebt
      omega
  | succ count ih =>
    rcases eager_cases hlimit w with ⟨hnone, hended⟩ | ⟨m, next, hsome, hmove⟩
    · exact ⟨w, by simpa only [eagerRun, hnone] using Run.nil w, hended⟩
    · have hnext := debt_move hmove
      obtain ⟨last, hrun, hended⟩ := ih next (by omega)
      exact ⟨last, by simpa only [eagerRun, hsome, hmove] using Run.cons hmove hrun, hended⟩

end Window

/-- The moves of a whole pass over some processes, each with the window after it. -/
structure Schedule (limit : Nat) (ps : List Pid) where
  steps : List (Move × Window)
  ends : ∃ last, Window.Run limit (Window.opening ps) steps last ∧ last.Ended

namespace Schedule

variable {limit : Nat} {ps : List Pid}

def moves (s : Schedule limit ps) : List Move := s.steps.map Prod.fst

/-- The schedule that lets no update finish while something else can be done. -/
def eager (hlimit : 0 < limit) (ps : List Pid) : Schedule limit ps :=
  ⟨Window.eagerRun limit (Window.opening ps).debt (Window.opening ps),
    Window.eagerRun_ends hlimit _ _ (Nat.le_refl _)⟩

end Schedule

/-- How passes go: sets are gone through in some order, and their writes are scheduled in some way. -/
structure Course where
  order : List Pid → List Pid
  order_perm : ∀ ps, (order ps).Perm ps
  schedule : {limit : Nat} → 0 < limit → (ps : List Pid) → Schedule limit ps

def Course.eager : Course := ⟨id, fun ps => .refl ps, Schedule.eager⟩

end SocketCensus
