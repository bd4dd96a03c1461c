import SocketCensus.Proofs.Pass.Effect

/-!
A pass on its course. The summary and the map are decided by the set that is found and by the
outcomes of the writes, so that no course can be told from them; calls and messages come in an order
that the course chooses.
-/
namespace SocketCensus

namespace Pass

variable (pass : Pass) (course : Course) {source : Traced (Except ToolError (List Pid))}
  {ps : List Pid}

def openingLog (ps : List Pid) : Log.Entry :=
  if ps = [] then Log.debug "no PIDs discovered, nothing to write"
  else Log.info s!"found {ps.length} active network PIDs"

theorem along_of_error {e : ToolError} (h : source.value = .error e) :
    pass.along course source = ⟨.error e, [], source.calls, source.logs, [], 0⟩ := by
  simp [along, reconcileBy, h, Except.map]

theorem along_of_ok (h : source.value = .ok ps) :
    ∃ schedule : Schedule pass.limit (course.order ps),
      let report := pass.writeAll (course.order ps) schedule
      pass.along course source =
        { report with calls := source.calls ++ report.calls, logs := source.logs ++ report.logs } :=
  ⟨course.schedule pass.limit_pos (course.order ps), by simp [along, reconcileBy, h, Except.map]⟩

theorem result_along_eq_error_iff {e : ToolError} :
    (pass.along course source).result = .error e ↔ source.value = .error e := by
  cases hvalue : source.value with
  | error cause => simp [pass.along_of_error course hvalue]
  | ok ps =>
    obtain ⟨schedule, hreport⟩ := pass.along_of_ok course hvalue
    rw [hreport]
    unfold writeAll
    split <;> simp

theorem result_along (hset : ps.Nodup) (h : source.value = .ok ps) :
    ∃ s, (pass.along course source).result = .ok s ∧ s.Accounts pass.target ps := by
  have hperm := course.order_perm ps
  obtain ⟨schedule, hreport⟩ := pass.along_of_ok course h
  obtain ⟨s, hresult, hs⟩ := pass.result_writeAll (hperm.nodup_iff.mpr hset) schedule
  exact ⟨s, by rw [hreport, ← hresult], hs.of_perm hperm⟩

/-- A pass succeeds exactly if its discovery does, with the one summary that is true. -/
theorem result_along_eq_ok_iff (hset : ∀ ps, source.value = .ok ps → ps.Nodup) {s : Summary} :
    (pass.along course source).result = .ok s ↔
      ∃ ps, source.value = .ok ps ∧ s.Accounts pass.target ps := by
  cases hvalue : source.value with
  | error e => simp [(pass.result_along_eq_error_iff course).mpr hvalue]
  | ok ps =>
    obtain ⟨own, hresult, hown⟩ := pass.result_along course (hset ps hvalue) hvalue
    simp only [hresult, Except.ok.injEq]
    constructor
    · intro hs
      exact ⟨ps, rfl, hs ▸ hown⟩
    · intro h
      obtain ⟨found, rfl, hs⟩ := h
      exact hs.unique hown (.refl _)

theorem foldl_effect_along (h : source.value = .ok ps) (m : TrafficMap) :
    (pass.along course source).moves.foldl pass.effect m = m.written (pass.target.outcomes ps) := by
  obtain ⟨schedule, hreport⟩ := pass.along_of_ok course h
  rw [hreport]
  show (pass.writeAll (course.order ps) schedule).moves.foldl pass.effect m = _
  rw [foldl_effect_writeAll, m.written_outcomes_of_perm pass.target (course.order_perm ps)]

/-- The calls and the messages of a pass are those of its discovery and then those of its writes,
one write after the other in some order. -/
theorem exists_order_along (h : source.value = .ok ps) :
    ∃ order : List Pid, order.Perm ps ∧
      (pass.along course source).calls =
        source.calls ++ order.flatMap (fun p => (pass.target.write p).calls) ∧
      (pass.along course source).logs =
        source.logs ++ openingLog ps :: order.flatMap pass.writeLogs := by
  have hperm := course.order_perm ps
  obtain ⟨schedule, hreport⟩ := pass.along_of_ok course h
  refine ⟨finished schedule.moves, schedule.finished_moves_perm.trans hperm, ?_⟩
  rw [hreport]
  by_cases hempty : ps = []
  · subst hempty
    have hnone : course.order [] = [] := hperm.eq_nil
    have hfinished : finished schedule.moves = [] :=
      (schedule.finished_moves_perm.trans hperm).eq_nil
    simp [writeAll, openingLog, hnone, hfinished]
  · have hsome : course.order ps ≠ [] := fun hnone => hempty (hnone ▸ hperm).symm.eq_nil
    simp [writeAll, openingLog, hempty, hsome, hperm.length_eq]

/-- Passes on two courses differ in the order of what they call and log, and in nothing else that a run
tells. -/
theorem along_perm_along (other : Course) (hset : ∀ ps, source.value = .ok ps → ps.Nodup) :
    (pass.along course source).result = (pass.along other source).result ∧
      (pass.along course source).calls.Perm (pass.along other source).calls ∧
      (pass.along course source).logs.Perm (pass.along other source).logs := by
  cases hvalue : source.value with
  | error e =>
    rw [pass.along_of_error course hvalue, pass.along_of_error other hvalue]
    exact ⟨rfl, .refl _, .refl _⟩
  | ok ps =>
    obtain ⟨s, hresult, hs⟩ := pass.result_along course (hset ps hvalue) hvalue
    have hother : (pass.along other source).result = .ok s :=
      (pass.result_along_eq_ok_iff other hset).mpr ⟨ps, hvalue, hs⟩
    obtain ⟨order, horder, hcalls, hlogs⟩ := pass.exists_order_along course hvalue
    obtain ⟨otherOrder, hotherOrder, hotherCalls, hotherLogs⟩ := pass.exists_order_along other hvalue
    have hperm : order.Perm otherOrder := horder.trans hotherOrder.symm
    refine ⟨hresult.trans hother.symm, ?_, ?_⟩
    · rw [hcalls, hotherCalls]
      exact (hperm.flatMap_right _).append_left _
    · rw [hlogs, hotherLogs]
      exact ((hperm.flatMap_right _).cons _).append_left _

theorem mem_calls_along {call : Call} :
    call ∈ (pass.along course source).calls ↔ call ∈ source.calls ∨
      ∃ ps, source.value = .ok ps ∧ ∃ p ∈ ps, call ∈ (pass.target.write p).calls := by
  cases hvalue : source.value with
  | error e => simp [pass.along_of_error course hvalue]
  | ok ps =>
    obtain ⟨order, horder, hcalls, -⟩ := pass.exists_order_along course hvalue
    simp [hcalls, horder.mem_iff]

end Pass
end SocketCensus
