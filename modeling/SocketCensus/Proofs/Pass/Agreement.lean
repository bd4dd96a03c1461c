import SocketCensus.Proofs.Entry.MapTool
import SocketCensus.Proofs.Pass.Course

/-!
What a pass depends on. Nothing is asked of an updater but the updates of the processes found, so
that updaters which answer these alike cannot be told apart by a pass; and nothing is asked of a
machine but the runs of these very commands.
-/
namespace SocketCensus

namespace Target

variable {t other : Target} {p : Pid}

structure Agree (t other : Target) (p : Pid) : Prop where
  mapPath_eq : t.mapPath = other.mapPath
  answer_eq : ∀ u, t.update? p = .ok u → t.answer u = other.answer u

theorem Agree.update?_eq (h : t.Agree other p) : t.update? p = other.update? p := by
  unfold update?
  rw [h.mapPath_eq]

theorem Agree.outcome_eq (h : t.Agree other p) : t.outcome p = other.outcome p := by
  unfold outcome
  rw [← h.update?_eq]
  cases hupdate : t.update? p with
  | error e => rfl
  | ok u => simp only [h.answer_eq u hupdate]

theorem Agree.updateTrace_eq (h : t.Agree other p) : t.updateTrace p = other.updateTrace p := by
  unfold updateTrace
  rw [← h.update?_eq]
  cases hupdate : t.update? p with
  | error e => rfl
  | ok u => simp only [h.answer_eq u hupdate]

theorem Agree.write_eq (h : t.Agree other p) : t.write p = other.write p := by
  unfold write
  rw [h.outcome_eq, h.updateTrace_eq, h.mapPath_eq]

theorem Agree.insert_eq (h : t.Agree other p) : t.insert p = other.insert p := by
  unfold insert
  rw [h.write_eq, h.mapPath_eq]

end Target

namespace Pass

variable {t other : Target} {c : Nat}

theorem writeLogs_congr {p : Pid} (h : t.Agree other p) :
    (Pass.mk t c).writeLogs p = (Pass.mk other c).writeLogs p := by
  simp only [writeLogs, h.write_eq, h.outcome_eq]

/-- The number of writes at once has to be the same, or else the schedules were not. -/
theorem writeAll_congr {ps : List Pid} (schedule : Schedule (Pass.mk t c).limit ps)
    (h : ∀ p ∈ ps, t.Agree other p) :
    (Pass.mk t c).writeAll ps schedule = (Pass.mk other c).writeAll ps schedule := by
  have hfinished (p : Pid) (hp : p ∈ finished schedule.moves) : t.Agree other p :=
    h p (schedule.finished_moves_perm.mem_iff.mp hp)
  have hupdates : (Pass.mk t c).updates schedule.moves = (Pass.mk other c).updates schedule.moves := by
    rw [updates, updates, schedule.started_moves]
    refine List.filterMap_congr fun p hp => ?_
    rw [(h p hp).update?_eq]
  have houtcomes : ((finished schedule.moves).map fun p => (p, t.outcome p)) =
      (finished schedule.moves).map fun p => (p, other.outcome p) :=
    List.map_congr_left fun p hp => by rw [(hfinished p hp).outcome_eq]
  have hcalls : ((finished schedule.moves).flatMap fun p => (t.write p).calls) =
      (finished schedule.moves).flatMap fun p => (other.write p).calls :=
    List.flatMap_congr fun p hp => by rw [(hfinished p hp).write_eq]
  have hlogs : (finished schedule.moves).flatMap (Pass.mk t c).writeLogs =
      (finished schedule.moves).flatMap (Pass.mk other c).writeLogs :=
    List.flatMap_congr fun p hp => writeLogs_congr (hfinished p hp)
  -- what is left to compare are the limits of the schedules, which depend on the number only
  unfold writeAll
  simp only [hupdates, houtcomes, hcalls, hlogs]
  rfl

theorem along_congr (course : Course) (source : Traced (Except ToolError (List Pid)))
    (h : ∀ found, source.value = .ok found → ∀ p ∈ found, t.Agree other p) :
    (Pass.mk t c).along course source = (Pass.mk other c).along course source := by
  cases hvalue : source.value with
  | error e => rw [along_of_error _ course hvalue, along_of_error _ course hvalue]
  | ok found =>
    have hordered (p : Pid) (hp : p ∈ course.order found) : t.Agree other p :=
      h found hvalue p ((course.order_perm found).mem_iff.mp hp)
    simp only [along, reconcileBy, hvalue, Except.map]
    rw [writeAll_congr _ hordered]
    rfl

end Pass

/-- Machines that agree about the command for a process, if it is to be run at all, make targets that
treat the process alike. -/
theorem MapTool.agree_of_machine_agree {tool : MapTool} {machine others : Machine} {mapPath : String}
    {p : Pid} (h : tool.dryRun = false → Key.Fits p →
      machine.Agree others ⟨tool.program, entryArguments mapPath p⟩) :
    (tool.target machine mapPath).Agree (tool.target others mapPath) p where
  mapPath_eq := rfl
  answer_eq u hu := by
    obtain ⟨key, hkey, rfl⟩ := Target.update?_eq_ok_iff.mp hu
    simp only [Target.answer, target, updater, update, arguments_zero mapPath hkey]
    split
    · rfl
    · rename_i hreal
      rw [runTool_congr (h (by simpa using hreal) (Target.fits_of_update? hu))]

end SocketCensus
