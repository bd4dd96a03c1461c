import SocketCensus.Proofs.Pass.Course

/-!
The messages of a pass. Each write ends with one message that says what came of it. In whatever order
the writes finish, these messages are the ones that can be made of the summary afterwards.
-/
namespace SocketCensus

def Pass.added (mapPath : String) (p : Pid) : Log.Entry := Log.debug s!"added PID {p} to {mapPath}"

def Pass.outcomeLog (mapPath : String) (o : Pid × Except WriteError Unit) : Log.Entry :=
  match o.2 with
  | .ok () => added mapPath o.1
  | .error e => warning o.1 e

/-- The messages that a summary accounts for. -/
def Summary.messages (mapPath : String) (s : Summary) : List Log.Entry :=
  s.inserted.map (Pass.added mapPath) ++ s.failed.map fun f => Pass.warning f.1 f.2

namespace Pass

theorem map_outcomeLog_perm (mapPath : String) (outcomes : List (Pid × Except WriteError Unit)) :
    (outcomes.map (outcomeLog mapPath)).Perm
      ((outcomes.filterMap Summary.inserted?).map (added mapPath) ++
        (outcomes.filterMap Summary.failed?).map fun f => warning f.1 f.2) := by
  induction outcomes with
  | nil => exact .nil
  | cons o rest ih =>
    obtain ⟨p, result⟩ := o
    cases result with
    | ok x => exact ih.cons _
    | error e => exact (ih.cons _).trans List.perm_middle.symm

theorem messages_ofOutcomes_perm (mapPath : String) (discovered : Nat)
    (outcomes : List (Pid × Except WriteError Unit)) :
    ((Summary.ofOutcomes discovered outcomes).messages mapPath).Perm
      (outcomes.map (outcomeLog mapPath)) := by
  refine List.Perm.trans ?_ (map_outcomeLog_perm mapPath outcomes).symm
  exact ((List.mergeSort_perm _ _).map _).append ((List.mergeSort_perm _ _).map _)

variable (pass : Pass)

theorem writeLogs_eq (p : Pid) :
    pass.writeLogs p = (pass.target.updateTrace p).logs ++
      [outcomeLog pass.target.mapPath (p, pass.target.outcome p)] := by
  rw [writeLogs, Target.write]
  cases pass.target.outcome p with
  | ok x => simp [outcomeLog, added]
  | error e => simp [outcomeLog]

/-- In whatever order they come, the messages of some writes are those of their updates and those
that their summary accounts for. -/
theorem flatMap_writeLogs_perm {ps order : List Pid} {s : Summary} (hset : ps.Nodup)
    (horder : order.Perm ps) (hs : s.Accounts pass.target ps) :
    (order.flatMap pass.writeLogs).Perm
      ((ps.flatMap fun p => (pass.target.updateTrace p).logs) ++ s.messages pass.target.mapPath) := by
  have hsame : Summary.ofOutcomes ps.length (ps.map fun p => (p, pass.target.outcome p)) = s :=
    hs.unique (Summary.accounts_ofOutcomes pass.target hset (.refl ps)) (.refl ps)
  have hwrites : pass.writeLogs = fun p => (pass.target.updateTrace p).logs ++
      [outcomeLog pass.target.mapPath (p, pass.target.outcome p)] := funext pass.writeLogs_eq
  have hapart := List.flatMap_append_perm ps (fun p => (pass.target.updateTrace p).logs)
    fun p => [outcomeLog pass.target.mapPath (p, pass.target.outcome p)]
  have houtcomes : (ps.flatMap fun p =>
      [outcomeLog pass.target.mapPath (p, pass.target.outcome p)]).Perm
        (s.messages pass.target.mapPath) := by
    rw [← List.map_eq_flatMap, ← hsame]
    have hmap := messages_ofOutcomes_perm pass.target.mapPath ps.length
      (ps.map fun p => (p, pass.target.outcome p))
    rw [List.map_map] at hmap
    exact hmap.symm
  rw [hwrites]
  exact (horder.flatMap_right _).trans (hapart.symm.trans (houtcomes.append_left _))

/-- The messages of a pass: about its discovery, about what was found, about the updates, and about
what came of them. -/
theorem logs_along_perm (course : Course) {source : Traced (Except ToolError (List Pid))}
    {ps : List Pid} {s : Summary} (hset : ps.Nodup) (hfound : source.value = .ok ps)
    (hs : s.Accounts pass.target ps) :
    (pass.along course source).logs.Perm (source.logs ++ openingLog ps ::
      ((ps.flatMap fun p => (pass.target.updateTrace p).logs) ++
        s.messages pass.target.mapPath)) := by
  obtain ⟨order, horder, -, hlogs⟩ := pass.exists_order_along course hfound
  rw [hlogs]
  exact ((pass.flatMap_writeLogs_perm hset horder hs).cons _).append_left _

theorem logs_writeAll {ps : List Pid} (schedule : Schedule pass.limit ps) :
    (pass.writeAll ps schedule).logs =
      openingLog ps :: (finished schedule.moves).flatMap pass.writeLogs := by
  unfold writeAll openingLog
  split
  · rename_i hempty
    subst hempty
    rw [schedule.finished_moves_perm.eq_nil]
    rfl
  · rfl

theorem flatMap_logs_updates (t : Target) (ps : List Pid) :
    (ps.filterMap fun p => (t.update? p).toOption).flatMap (fun u => (t.answer u).logs) =
      ps.flatMap fun p => (t.updateTrace p).logs := by
  induction ps with
  | nil => rfl
  | cons p rest ih =>
    rw [List.filterMap_cons, List.flatMap_cons, Target.updateTrace]
    cases t.update? p with
    | error e => exact ih
    | ok u => exact congrArg ((t.answer u).logs ++ ·) ih

/-- Whatever the schedule, a pass logs what its discovery and its updates log, and beside that an opening
and what its summary accounts for. -/
theorem logs_reconcileBy_perm (schedule : (ps : List Pid) → Schedule pass.limit ps)
    {source : Traced (Except ToolError (List Pid))} {ps : List Pid} (hset : ps.Nodup)
    (hfound : source.value = .ok ps) :
    let report := pass.reconcileBy schedule source
    ∃ s, report.result = .ok s ∧
      report.logs.Perm ((source.logs ++ report.updates.flatMap fun u => (pass.target.answer u).logs) ++
        openingLog ps :: s.messages pass.target.mapPath) := by
  intro report
  obtain ⟨s, hresult, hs⟩ := pass.result_writeAll hset (schedule ps)
  have hreport : report.updates = (pass.writeAll ps (schedule ps)).updates ∧
      report.logs = source.logs ++ (pass.writeAll ps (schedule ps)).logs := by
    simp only [report, reconcileBy, hfound, and_self]
  refine ⟨s, by simpa only [report, reconcileBy, hfound] using hresult, ?_⟩
  rw [hreport.1, hreport.2, updates_writeAll, flatMap_logs_updates, logs_writeAll, List.append_assoc]
  have hwrites := pass.flatMap_writeLogs_perm hset (schedule ps).finished_moves_perm hs
  exact ((hwrites.cons _).trans List.perm_middle.symm).append_left _

/-- The log and the summary of a pass agree. Apart from what the discovery and the updater log for
themselves, a pass over some processes logs how many there are, once that it has added a process for
each one inserted, and for each failure once that the process has failed, with the message of the error;
a pass over the empty set logs that there is nothing to write, and a failed discovery leaves nothing
to log. -/
theorem logs_tell_summary (pass : Pass) (schedule : (ps : List Pid) → Schedule pass.limit ps)
    (source : Traced (Except ToolError (List Pid))) :
    let report := pass.reconcileBy schedule source
    let others := source.logs ++ report.updates.flatMap fun u => (pass.target.answer u).logs
    (∀ ps, source.value = .ok ps → ps.Nodup → ps ≠ [] → ∃ s, report.result = .ok s ∧
      report.logs.Perm (others ++ Log.info s!"found {ps.length} active network PIDs" ::
        ((s.inserted.map fun p => Log.debug s!"added PID {p} to {pass.target.mapPath}") ++
          s.failed.map fun f => Log.warn s!"failed to insert PID {f.1}: {f.2.message}"))) ∧
    (source.value = .ok [] → report.result = .ok Summary.empty ∧
      report.logs = others ++ [Log.debug "no PIDs discovered, nothing to write"]) ∧
    ∀ e, source.value = .error e → report.result = .error e ∧ report.logs = others := by
  intro report others
  refine ⟨?_, ?_, ?_⟩
  · intro ps hfound hset hsome
    have hopening : openingLog ps = Log.info s!"found {ps.length} active network PIDs" :=
      if_neg hsome
    rw [← hopening]
    exact pass.logs_reconcileBy_perm schedule hset hfound
  · intro hfound
    simp [others, report, reconcileBy, hfound, writeAll]
  · intro e hfailed
    simp [others, report, reconcileBy, hfailed]

/-- A process that is written and one whose update is refused. -/
theorem logs_tell_summary_of_two :
    let refusal : ToolError := .failed "tool" (.ofExit 1) "no\nroom"
    let pass : Pass := ⟨⟨"/map", fun key _ =>
      ⟨if key.pid = 9 then .error refusal else .ok (), [], [Log.debug "update"]⟩⟩, 2⟩
    let report := pass.reconcile ⟨.ok [9, 7], [], [Log.debug "scan"]⟩
    report.result = .ok ⟨2, [7], [(9, .update refusal)]⟩ ∧
      report.logs.Perm ([Log.debug "scan", Log.debug "update", Log.debug "update"] ++
        [Log.info "found 2 active network PIDs", Log.debug "added PID 7 to /map",
          Log.warn "failed to insert PID 9: tool exited with exit status: 1: no\nroom"]) := by
  intro refusal pass report
  have hresult : report.result = .ok ⟨2, [7], [(9, .update refusal)]⟩ := by decide +kernel
  obtain ⟨s, hs, hlogs⟩ := (logs_tell_summary pass (Schedule.eager pass.limit_pos)
    ⟨.ok [9, 7], [], [Log.debug "scan"]⟩).1 [9, 7] rfl (by decide) (by decide)
  obtain rfl := Except.ok.inj (hs.symm.trans hresult)
  refine ⟨hresult, hlogs.trans (.of_eq ?_)⟩
  decide +kernel

end Pass
end SocketCensus
