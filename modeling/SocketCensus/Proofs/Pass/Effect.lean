import SocketCensus.Proofs.Entry.TrafficMap
import SocketCensus.Proofs.Pass.Accounting
import SocketCensus.Proofs.Pass.History

/-!
What writes make of a map. A write that succeeds leaves zeroed counters under the key of its
process, whatever was there, and any other write leaves the map alone. So it is decided by the
processes written with success alone, not by the order of the writes, what map comes out.
-/
namespace SocketCensus

/-- A successful write is seen under the key of its process and nowhere else. -/
theorem Deed.get?_wrote (m : TrafficMap) (key : Key) (p : Pid) :
    ((Deed.wrote p (.ok ())).apply m).get? key =
      if key.pid = p then some Counters.zero else m.get? key := by
  by_cases hp : key.pid = p
  · have hkey : Key.ofPid p = .ok key := Key.ofPid_eq_ok_iff_pid.mpr hp
    simp [apply, hkey, hp]
  · rw [if_neg hp]
    cases hkey : Key.ofPid p with
    | error e => simp [apply, hkey]
    | ok own =>
      have hother : own ≠ key := fun heq => hp (heq ▸ Key.pid_of_ofPid hkey)
      simp [apply, hkey, TrafficMap.get?_set_other m _ hother]

namespace TrafficMap

variable {m : TrafficMap} {outcomes : List (Pid × Except WriteError Unit)} {key : Key}

/-- The map after some writes, told by their outcomes. -/
def written (m : TrafficMap) (outcomes : List (Pid × Except WriteError Unit)) : TrafficMap :=
  outcomes.foldl (fun m o => (Deed.wrote o.1 o.2).apply m) m

theorem written_append (m : TrafficMap) (outcomes others : List (Pid × Except WriteError Unit)) :
    m.written (outcomes ++ others) = (m.written outcomes).written others := by
  rw [written, List.foldl_append]
  rfl

theorem get?_written_of_not_mem (h : (key.pid, .ok ()) ∉ outcomes) :
    (m.written outcomes).get? key = m.get? key := by
  induction outcomes generalizing m with
  | nil => rfl
  | cons o rest ih =>
    obtain ⟨p, result⟩ := o
    simp only [List.mem_cons, not_or] at h
    have hrest : (m.written ((p, result) :: rest)).get? key =
        ((Deed.wrote p result).apply m).get? key := ih h.2
    rw [hrest]
    cases result with
    | error e => rfl
    | ok x =>
      have hp : key.pid ≠ p := fun heq => h.1 (by rw [heq])
      rw [Deed.get?_wrote, if_neg hp]

theorem get?_written_of_mem (h : (key.pid, .ok ()) ∈ outcomes) :
    (m.written outcomes).get? key = some Counters.zero := by
  induction outcomes generalizing m with
  | nil => simp at h
  | cons o rest ih =>
    by_cases hlater : (key.pid, .ok ()) ∈ rest
    · exact ih hlater
    · have ho : (key.pid, .ok ()) = o := (List.mem_cons.mp h).resolve_right hlater
      have hrest : (m.written (o :: rest)).get? key = ((Deed.wrote o.1 o.2).apply m).get? key :=
        get?_written_of_not_mem hlater
      rw [hrest, ← ho, Deed.get?_wrote, if_pos rfl]

/-- Writes that succeed for the same processes make the same map. -/
theorem written_eq_of_mem_iff {others : List (Pid × Except WriteError Unit)}
    (h : ∀ p, (p, .ok ()) ∈ outcomes ↔ (p, .ok ()) ∈ others) :
    m.written outcomes = m.written others := by
  apply eq_of_get?_eq
  intro key
  by_cases hkey : (key.pid, .ok ()) ∈ outcomes
  · rw [get?_written_of_mem hkey, get?_written_of_mem ((h key.pid).mp hkey)]
  · rw [get?_written_of_not_mem hkey, get?_written_of_not_mem fun hother => hkey ((h key.pid).mpr hother)]

end TrafficMap

def Target.outcomes (t : Target) (ps : List Pid) : List (Pid × Except WriteError Unit) :=
  ps.map fun p => (p, t.outcome p)

theorem Target.mem_outcomes {t : Target} {ps : List Pid} {p : Pid} {result : Except WriteError Unit} :
    (p, result) ∈ t.outcomes ps ↔ p ∈ ps ∧ t.outcome p = result := by
  simp only [outcomes, List.mem_map, Prod.mk.injEq]
  constructor
  · intro h
    obtain ⟨q, hq, rfl, hresult⟩ := h
    exact ⟨hq, hresult⟩
  · intro h
    exact ⟨p, h.1, rfl, h.2⟩

/-- The order of some writes is not seen in the map. -/
theorem TrafficMap.written_outcomes_of_perm (m : TrafficMap) (t : Target) {ps others : List Pid}
    (h : others.Perm ps) : m.written (t.outcomes others) = m.written (t.outcomes ps) := by
  apply written_eq_of_mem_iff
  intro p
  rw [Target.mem_outcomes, Target.mem_outcomes, h.mem_iff]

namespace Pass

theorem foldl_effect (pass : Pass) (m : TrafficMap) (moves : List Move) :
    moves.foldl pass.effect m = m.written (pass.target.outcomes (finished moves)) := by
  induction moves generalizing m with
  | nil => rfl
  | cons move rest ih =>
    cases move with
    | start p => exact ih m
    | finish p =>
      rw [List.foldl_cons, ih, effect, Target.commit_eq_apply]
      rfl

/-- A whole pass writes what it found, in whatever order it goes about it. -/
theorem foldl_effect_writeAll (pass : Pass) {ps : List Pid} (schedule : Schedule pass.limit ps)
    (m : TrafficMap) :
    (pass.writeAll ps schedule).moves.foldl pass.effect m = m.written (pass.target.outcomes ps) := by
  unfold writeAll
  split
  · rename_i hempty
    rw [hempty]
    rfl
  · rw [foldl_effect, m.written_outcomes_of_perm pass.target schedule.finished_moves_perm]

end Pass
end SocketCensus
