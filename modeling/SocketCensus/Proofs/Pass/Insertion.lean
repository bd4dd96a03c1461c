import SocketCensus.Pass.Session
import SocketCensus.Proofs.Pass.Effect

/-!
An insertion is a pass over one process. Whatever its concurrency and its schedule, such a pass asks of
the updater what the insertion asks, and leaves the same map. What the insertion answers is all that
there is in the summary of the pass.
-/
namespace SocketCensus

namespace Summary

variable {n : Nat} {p : Pid} {result : Except WriteError Unit}

theorem ofOutcomes_singleton_ok {x : Unit} : ofOutcomes n [(p, .ok x)] = ⟨n, [p], []⟩ := by
  simp [ofOutcomes, inserted?, failed?, List.filterMap_cons]

theorem ofOutcomes_singleton_error {e : WriteError} :
    ofOutcomes n [(p, .error e)] = ⟨n, [], [(p, e)]⟩ := by
  simp [ofOutcomes, inserted?, failed?, List.filterMap_cons]

theorem ofOutcomes_singleton_inserted_iff :
    result = .ok () ↔
      (ofOutcomes n [(p, result)]).inserted = [p] ∧ (ofOutcomes n [(p, result)]).failed = [] := by
  cases result with
  | ok x => simp [ofOutcomes_singleton_ok]
  | error e => simp [ofOutcomes_singleton_error]

theorem ofOutcomes_singleton_failed_iff {e : WriteError} :
    result = .error e ↔
      (ofOutcomes n [(p, result)]).inserted = [] ∧ (ofOutcomes n [(p, result)]).failed = [(p, e)] := by
  cases result with
  | ok x => simp [ofOutcomes_singleton_ok]
  | error cause => simp [ofOutcomes_singleton_error]

end Summary

namespace Target

variable {t : Target} {p : Pid}

theorem commit_of_error {e : WriteError} (h : t.outcome p = .error e) (m : TrafficMap) :
    t.commit m p = m := by
  rw [commit_eq_apply, h]
  rfl

theorem calls_insert_of_not_fits (h : ¬ Key.Fits p) : (t.insert p).calls = [] := by
  have hupdate : t.update? p = .error ⟨p⟩ := update?_eq_error_iff_not_fits.mpr ⟨h, rfl⟩
  rw [calls_insert, calls_write, updateTrace, hupdate]
  rfl

end Target

namespace Pass

variable {p : Pid}

theorem finished_moves_singleton {limit : Nat} (schedule : Schedule limit [p]) :
    finished schedule.moves = [p] := List.perm_singleton.mp schedule.finished_moves_perm

theorem result_writeAll_singleton (pass : Pass) (schedule : Schedule pass.limit [p]) :
    (pass.writeAll [p] schedule).result =
      .ok (Summary.ofOutcomes 1 [(p, pass.target.outcome p)]) := by
  rw [writeAll, if_neg (List.cons_ne_nil p []), finished_moves_singleton]
  rfl

theorem updates_writeAll_singleton (pass : Pass) (schedule : Schedule pass.limit [p]) :
    (pass.writeAll [p] schedule).updates = (pass.target.update? p).toOption.toList := by
  rw [updates_writeAll]
  cases hupdate : (pass.target.update? p).toOption <;> simp [hupdate]

theorem calls_writeAll_singleton (pass : Pass) (schedule : Schedule pass.limit [p]) :
    (pass.writeAll [p] schedule).calls = (pass.target.insert p).calls := by
  rw [writeAll, if_neg (List.cons_ne_nil p []), finished_moves_singleton, Target.calls_insert]
  exact List.append_nil _

theorem foldl_effect_writeAll_singleton (pass : Pass) (schedule : Schedule pass.limit [p])
    (m : TrafficMap) :
    (pass.writeAll [p] schedule).moves.foldl pass.effect m = pass.target.commit m p := by
  rw [foldl_effect_writeAll, Target.commit_eq_apply]
  rfl

/-- An insertion and a pass over the one process make the same update and leave the same map, whatever
the concurrency and the schedule of the pass. They make the same calls under any updater, also under one
that makes a call of everything it is asked. The insertion succeeds exactly if the summary lists an entry
for the process and no failure, and it fails with an error exactly if all that is listed is this error.
A failure leaves the map as it was, and a process without a key asks nothing of the updater. -/
theorem insertion_is_pass_over_one (pass : Pass)
    (schedule : (ps : List Pid) → Schedule pass.limit ps)
    (source : Traced (Except ToolError (List Pid))) (p : Pid) (hfound : source.value = .ok [p])
    (m : TrafficMap) :
    let inserted := pass.target.insert p
    let report := pass.reconcileBy schedule source
    report.updates = (pass.target.update? p).toOption.toList ∧
    report.calls = source.calls ++ inserted.calls ∧
    report.moves.foldl pass.effect m = pass.target.commit m p ∧
    (∃ s, report.result = .ok s ∧ s.discovered = 1 ∧
      (inserted.value = .ok () ↔ s.inserted = [p] ∧ s.failed = []) ∧
      ∀ e, inserted.value = .error e ↔ s.inserted = [] ∧ s.failed = [(p, e)]) ∧
    (∀ e, inserted.value = .error e → pass.target.commit m p = m) ∧
    (¬ Key.Fits p → report.updates = [] ∧ inserted.calls = []) ∧
    ∀ (setup : Session.Setup) (failures : Failures),
      let single := Session.step setup m (.insert p failures)
      let whole := Session.step setup m (.pass (.ok [p]) failures)
      single.updated = whole.updated ∧ single.map = whole.map := by
  intro inserted report
  have hreport : report = { pass.writeAll [p] (schedule [p]) with
      calls := source.calls ++ (pass.writeAll [p] (schedule [p])).calls
      logs := source.logs ++ (pass.writeAll [p] (schedule [p])).logs } := by
    simp only [report, reconcileBy, hfound]
  have hupdates : report.updates = (pass.target.update? p).toOption.toList := by
    rw [hreport, updates_writeAll_singleton]
  have hvalue : inserted.value = pass.target.outcome p := pass.target.value_insert p
  refine ⟨hupdates, ?_, ?_, ⟨Summary.ofOutcomes 1 [(p, pass.target.outcome p)], ?_, rfl, ?_, ?_⟩,
    ?_, ?_, ?_⟩
  · rw [hreport, calls_writeAll_singleton]
  · rw [hreport, foldl_effect_writeAll_singleton]
  · rw [hreport, result_writeAll_singleton]
  · rw [hvalue]
    exact Summary.ofOutcomes_singleton_inserted_iff
  · intro e
    rw [hvalue]
    exact Summary.ofOutcomes_singleton_failed_iff
  · intro e he
    exact Target.commit_of_error (hvalue ▸ he) m
  · intro hfits
    have hupdate : pass.target.update? p = .error ⟨p⟩ :=
      Target.update?_eq_error_iff_not_fits.mpr ⟨hfits, rfl⟩
    rw [hupdates, hupdate]
    exact ⟨rfl, Target.calls_insert_of_not_fits hfits⟩
  · intro setup failures
    have hdistinct : Pid.distinct [p] = [p] := rfl
    simp [Session.step, reconcile, reconcileBy, Except.map, Traced.silent, hdistinct,
      updates_writeAll_singleton, foldl_effect_writeAll_singleton]

/-- The update of process 9 is refused, and process -5 has no key. -/
theorem insertion_is_pass_over_one_in_vain :
    let refusal : ToolError := .launch (.notFound "tool")
    let pass : Pass := ⟨⟨"/map", fun key _ =>
      .silent (if key.pid = 9 then .error refusal else .ok ())⟩, 4⟩
    let key : Key := ⟨[9, 0, 0, 0], rfl⟩
    let m := (TrafficMap.empty.set key Counters.zero).count 9 ⟨300, 6⟩
    let refused := pass.reconcile (.silent (.ok [9]))
    let unfit := pass.reconcile (.silent (.ok [-5]))
    (pass.target.insert 9).value = .error (.update refusal) ∧
      (∃ s, refused.result = .ok s ∧ s.inserted = [] ∧ s.failed = [(9, .update refusal)]) ∧
      refused.updates = [⟨"/map", key, Counters.zero⟩] ∧ refused.moves.foldl pass.effect m = m ∧
      (∃ s, unfit.result = .ok s ∧ s.inserted = [] ∧ s.failed = [(-5, .outOfRange ⟨-5⟩)]) ∧
      unfit.updates = [] ∧ unfit.moves.foldl pass.effect m = m := by
  intro refusal pass key m refused unfit
  have hrefused : (pass.target.insert 9).value = .error (.update refusal) := by decide
  have hunfit : (pass.target.insert (-5)).value = .error (.outOfRange ⟨-5⟩) := by decide
  obtain ⟨hupdates, -, hmap, ⟨s, hs, -, -, hfailed⟩, hkept, -, -⟩ :=
    insertion_is_pass_over_one pass (Schedule.eager pass.limit_pos) (.silent (.ok [9])) 9 rfl m
  obtain ⟨-, -, hmap', ⟨s', hs', -, -, hfailed'⟩, hkept', hnone, -⟩ :=
    insertion_is_pass_over_one pass (Schedule.eager pass.limit_pos) (.silent (.ok [-5])) (-5) rfl m
  refine ⟨hrefused, ⟨s, hs, (hfailed _).mp hrefused⟩, hupdates.trans (by decide),
    hmap.trans (hkept _ hrefused), ⟨s', hs', (hfailed' _).mp hunfit⟩, (hnone (by decide)).1,
    hmap'.trans (hkept' _ hunfit)⟩

end Pass
end SocketCensus
