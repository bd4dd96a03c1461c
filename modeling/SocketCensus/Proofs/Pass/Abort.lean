import SocketCensus.Proofs.Discovery.SocketTool
import SocketCensus.Proofs.Pass.Course

/-!
What can make a pass fail. A pass fails with its discovery, before anything is written, and the error
is the one that the discovery met; once there is a set of processes, whatever becomes of their writes
is a matter of the summary.
-/
namespace SocketCensus

namespace Pass

variable (pass : Pass) (course : Course) {source : Traced (Except ToolError (List Pid))}

theorem exists_summary_along {found : List Pid} (h : source.value = .ok found) :
    ∃ s, (pass.along course source).result = .ok s ∧ s.discovered = found.length ∧
      (∀ p, p ∈ s.inserted ↔ p ∈ found ∧ pass.target.outcome p = .ok ()) ∧
      ∀ p e, (p, e) ∈ s.failed ↔ p ∈ found ∧ pass.target.outcome p = .error e := by
  have hperm := course.order_perm found
  obtain ⟨schedule, hreport⟩ := pass.along_of_ok course h
  rw [hreport]
  unfold writeAll
  split
  · rename_i hempty
    rw [hempty] at hperm
    obtain rfl : found = [] := hperm.symm.eq_nil
    exact ⟨Summary.empty, rfl, rfl, by simp [Summary.empty], by simp [Summary.empty]⟩
  · have hdone : (finished schedule.moves).Perm found := schedule.finished_moves_perm.trans hperm
    refine ⟨_, rfl, hperm.length_eq, ?_, ?_⟩
    · intro p
      rw [Summary.ofOutcomes, List.mem_mergeSort, Summary.mem_filterMap_inserted?, hdone.mem_iff]
    · intro p e
      rw [Summary.ofOutcomes, List.mem_mergeSort, Summary.mem_filterMap_failed?, hdone.mem_iff]

/-- A pass that fails has made no update and has left the map alone. -/
theorem untouched_of_error {e : ToolError} (h : (pass.along course source).result = .error e)
    (m : TrafficMap) :
    (pass.along course source).updates = [] ∧ (pass.along course source).calls = source.calls ∧
      (pass.along course source).moves.foldl pass.effect m = m := by
  rw [result_along_eq_error_iff] at h
  rw [pass.along_of_error course h]
  exact ⟨rfl, rfl, rfl⟩

theorem result_along_discover_eq_error_iff {tool : SocketTool} {machine : Machine} {e : ToolError} :
    (pass.along course (tool.discover machine)).result = .error e ↔
      (attempt machine tool.program tool.arguments).Fault tool.program tool.limit e := by
  rw [result_along_eq_error_iff, SocketTool.discover_eq_error_iff]

/-- A pass fails exactly if its discovery fails, and with the same error; then no update is made, no
tool is called but for the discovery, and the map is as it was. A discovery by the listing tool fails
exactly if the tool is missing, cannot be started, takes too long or ends with another wait status
than zero, whatever it has listed by then. Where there is a discovery there is a summary, and a write
that fails is listed in it with its error, be it one of many, each of them, or for want of a key. -/
theorem discovery_alone_aborts (m : TrafficMap) :
    (∀ source : Traced (Except ToolError (List Pid)),
      let report := pass.along course source
      (∀ e, report.result = .error e ↔ source.value = .error e) ∧
      (∀ e, report.result = .error e → report.updates = [] ∧ report.calls = source.calls ∧
        report.moves.foldl pass.effect m = m) ∧
      ∀ found, source.value = .ok found → ∃ s, report.result = .ok s ∧
        s.discovered = found.length ∧
        (∀ p, p ∈ s.inserted ↔ p ∈ found ∧ pass.target.outcome p = .ok ()) ∧
        ∀ p e, (p, e) ∈ s.failed ↔ p ∈ found ∧ pass.target.outcome p = .error e) ∧
    ∀ (machine : Machine) (tool : SocketTool),
      let reply := attempt machine tool.program tool.arguments
      let report := pass.along course (tool.discover machine)
      ((∃ e, report.result = .error e) ↔ reply = .missing ∨ (∃ cause, reply = .unstartable cause) ∨
        reply = .outlived ∨ ∃ listing, reply = .finished listing ∧ listing.status.word ≠ 0) ∧
      (reply = .missing → report.result = .error (.launch (.notFound tool.program))) ∧
      (∀ cause, reply = .unstartable cause →
        report.result = .error (.launch (.spawn tool.program cause))) ∧
      (reply = .outlived → report.result = .error (.launch (.timeout tool.program tool.limit))) ∧
      ∀ status stdout stderr, reply = .finished ⟨status, stdout, stderr⟩ → status.word ≠ 0 →
        report.result = .error (.failed tool.program status
          (String.ofList (Text.trim (Utf8.decodeLossy stderr)))) := by
  constructor
  · intro source report
    exact ⟨fun e => pass.result_along_eq_error_iff course,
      fun e he => pass.untouched_of_error course he m,
      fun found hfound => pass.exists_summary_along course hfound⟩
  · intro machine tool reply report
    have hfault (e : ToolError) :
        report.result = .error e ↔ reply.Fault tool.program tool.limit e :=
      pass.result_along_discover_eq_error_iff course
    refine ⟨?_, ?_, ?_, ?_, ?_⟩
    · simp only [hfault, Reply.exists_fault_iff, ne_eq, WaitStatus.eq_ofExit_zero_iff]
    · intro hmissing
      rw [hfault, hmissing]
      exact .missing
    · intro cause hcause
      rw [hfault, hcause]
      exact .unstartable cause
    · intro houtlived
      rw [hfault, houtlived]
      exact .outlived
    · intro status stdout stderr hfinished hstatus
      rw [hfault, hfinished]
      exact .finished _ fun hzero => hstatus (WaitStatus.eq_ofExit_zero_iff.mp hzero)

/-- A listing tool that is killed with a process already listed, and beside it a set of two processes
whose writes both fail. -/
theorem discovery_alone_aborts_for_killed :
    let bytes := fun (text : String) => text.toList.map fun c => UInt8.ofNat c.toNat
    let listing : Finished :=
      ⟨.ofSignal 9, bytes "users:((\"a\",pid=7,fd=3))\n", bytes " no netlink\n"⟩
    let machine : Machine := ⟨fun _ _ => .finished listing, fun program _ => program⟩
    let tool : SocketTool := ⟨"ss", ["-ptuna"], .ofMillis 20⟩
    let pass : Pass := ⟨⟨"/map", fun _ _ => .silent (.error (.launch (.notFound "tool")))⟩, 3⟩
    let killed := pass.along Course.eager (tool.discover machine)
    let refused := pass.along Course.eager (.silent (.ok [7, -1]))
    killed.result = .error (.failed "ss" (.ofSignal 9) "no netlink") ∧ killed.updates = [] ∧
      ∃ s, refused.result = .ok s ∧ s.discovered = 2 ∧ s.inserted = [] ∧
        (7, .update (.launch (.notFound "tool"))) ∈ s.failed ∧ (-1, .outOfRange ⟨-1⟩) ∈ s.failed := by
  intro bytes listing machine tool pass killed refused
  obtain ⟨hsource, htool⟩ := discovery_alone_aborts pass Course.eager TrafficMap.empty
  obtain ⟨-, -, -, -, hfailed⟩ := htool machine tool
  have hkilled : killed.result = .error (.failed "ss" (.ofSignal 9) "no netlink") :=
    hfailed (.ofSignal 9) _ _ rfl (by decide)
  obtain ⟨-, huntouched, -⟩ := hsource (tool.discover machine)
  obtain ⟨-, -, hfound⟩ := hsource (.silent (.ok [7, -1]))
  obtain ⟨s, hresult, hdiscovered, hinserted, hlisted⟩ := hfound [7, -1] rfl
  refine ⟨hkilled, (huntouched _ hkilled).1, s, hresult, hdiscovered, ?_, ?_, ?_⟩
  · refine List.eq_nil_iff_forall_not_mem.mpr ?_
    intro p hp
    obtain ⟨hmem, hok⟩ := (hinserted p).mp hp
    rcases List.mem_cons.mp hmem with rfl | hmem
    · exact absurd hok (by decide)
    · rw [List.mem_singleton.mp hmem] at hok
      exact absurd hok (by decide)
  · exact (hlisted 7 _).mpr ⟨by decide, by decide⟩
  · exact (hlisted (-1) _).mpr ⟨by decide, by decide⟩

end Pass
end SocketCensus
