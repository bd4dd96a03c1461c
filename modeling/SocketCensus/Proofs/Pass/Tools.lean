import Mathlib.Data.List.Dedup
import SocketCensus.Proofs.Discovery.Owners
import SocketCensus.Proofs.Entry.MapTool
import SocketCensus.Proofs.Pass.Accounting

/-!
A pass by way of the two tools. Where the listing tool exits with status 0, the summary tells of
each process that its output names what became of the one run that was to write the entry of this
process, and the tools are called for nothing else.
-/
namespace SocketCensus

theorem Pid.distinct_perm_dedup (ps : List Pid) : (distinct ps).Perm ps.dedup := by
  refine (List.perm_ext_iff_of_nodup (nodup_distinct ps) ps.nodup_dedup).mpr ?_
  intro p
  rw [mem_distinct, List.mem_dedup]

namespace SocketTool

variable {tool : SocketTool} {machine : Machine} {listing : Finished}

theorem calls_discover (h : attempt machine tool.program tool.arguments = .finished listing) :
    (tool.discover machine).calls = [⟨tool.program, tool.arguments⟩] := by
  have hcalls : (runTool machine tool.limit tool.program tool.arguments).calls =
      [⟨tool.program, tool.arguments⟩] := by
    rw [calls_runTool, h]
    rfl
  unfold discover
  dsimp only
  split <;> exact hcalls

end SocketTool

namespace Pass

theorem calls_writeAll (pass : Pass) {ps : List Pid} (schedule : Schedule pass.limit ps) :
    (pass.writeAll ps schedule).calls =
      (finished schedule.moves).flatMap fun p => (pass.target.write p).calls := by
  unfold writeAll
  split
  · rename_i hempty
    have hperm : (finished schedule.moves).Perm [] :=
      schedule.finished_moves_perm.trans (.of_eq hempty)
    rw [hperm.eq_nil]
    rfl
  · rfl

end Pass

namespace MapTool

variable {tool : MapTool} {machine : Machine} {mapPath : String}

/-- The processes for which the tool runs to its end, well or badly. -/
def ran (tool : MapTool) (machine : Machine) (mapPath : String) (ps : List Pid) : List Pid :=
  ps.filter fun p =>
    decide (Key.Fits p) && (attempt machine tool.program (entryArguments mapPath p)).ran

theorem mem_ran {ps : List Pid} {p : Pid} :
    p ∈ tool.ran machine mapPath ps ↔ p ∈ ps ∧ Key.Fits p ∧
      ∃ result, attempt machine tool.program (entryArguments mapPath p) = .finished result := by
  simp [ran, Reply.ran_eq_true_iff]

theorem flatMap_calls_write (hreal : tool.dryRun = false) (ps : List Pid) :
    (ps.flatMap fun p => ((tool.target machine mapPath).write p).calls) =
      (tool.ran machine mapPath ps).map fun p => ⟨tool.program, entryArguments mapPath p⟩ := by
  induction ps with
  | nil => rfl
  | cons p rest ih =>
    rw [List.flatMap_cons, ih, calls_write hreal]
    by_cases hran :
        Key.Fits p ∧ (attempt machine tool.program (entryArguments mapPath p)).ran = true
    · simp [ran, hran]
    · have hskip : (decide (Key.Fits p) &&
          (attempt machine tool.program (entryArguments mapPath p)).ran) = false := by
        simpa using hran
      simp [ran, hran, hskip]

end MapTool

namespace Pass

/-- The summary of a pass with the tools tells what became of their runs, whatever the machine
does with the arguments of each, in whatever order the set of processes is gone through and
their writes are scheduled. -/
theorem summary_tells_runs (machine : Machine) (listTool : SocketTool) (mapTool : MapTool)
    (mapPath : String) (concurrency : Nat)
    (schedule : (ps : List Pid) →
      Schedule (Pass.mk (mapTool.target machine mapPath) concurrency).limit ps)
    (listing : Finished) (order : List Pid) (harguments : listTool.arguments = ["-ptuna"])
    (hreal : mapTool.dryRun = false)
    (hlisted : attempt machine listTool.program ["-ptuna"] = .finished listing)
    (hstatus : listing.status = .ofExit 0) (hset : order.Nodup)
    (horder : ∀ p, p ∈ order ↔ p ∈ Marker.pids (Text.lines (Utf8.decodeLossy listing.stdout))) :
    let named := Marker.pids (Text.lines (Utf8.decodeLossy listing.stdout))
    let run := fun p => attempt machine mapTool.program (MapTool.entryArguments mapPath p)
    let source := listTool.discover machine
    let pass : Pass := ⟨mapTool.target machine mapPath, concurrency⟩
    let report := pass.reconcileBy schedule { source with value := .ok order }
    (∃ found, source.value = .ok found ∧ found.Perm order) ∧
    ∃ s, report.result = .ok s ∧ s.discovered = named.dedup.length ∧
      (∀ p, p ∈ s.inserted ↔ p ∈ named ∧ Key.Fits p ∧
        ∃ result, run p = .finished result ∧ result.status = .ofExit 0) ∧
      (∀ p e, (p, e) ∈ s.failed ↔ p ∈ named ∧ ((¬ Key.Fits p ∧ e = .outOfRange ⟨p⟩) ∨
        Key.Fits p ∧ ∃ cause, (run p).Fault mapTool.program mapTool.limit cause ∧
          e = .update cause)) ∧
      s.insertedCount + s.failedCount = s.discovered ∧
      (∀ p q, Key.Fits p → Key.Fits q →
        MapTool.entryArguments mapPath p = MapTool.entryArguments mapPath q → p = q) ∧
      ∃ ran : List Pid, ran.Nodup ∧
        (∀ p, p ∈ ran ↔ p ∈ named ∧ Key.Fits p ∧ ∃ result, run p = .finished result) ∧
        report.calls = ⟨listTool.program, ["-ptuna"]⟩ ::
          ran.map fun p => ⟨mapTool.program, MapTool.entryArguments mapPath p⟩ := by
  intro named run source pass report
  have hfinished : attempt machine listTool.program listTool.arguments = .finished listing := by
    rw [harguments, hlisted]
  have hfound : source.value = .ok (Pid.distinct named) :=
    SocketTool.discover_eq_ok hfinished (WaitStatus.success_eq_true_iff.mpr hstatus)
  have hperm : (Pid.distinct named).Perm order := by
    refine (List.perm_ext_iff_of_nodup (Pid.nodup_distinct named) hset).mpr ?_
    intro p
    rw [Pid.mem_distinct, horder]
  obtain ⟨s, hresult, h⟩ := pass.result_writeAll hset (schedule order)
  have hdone := (schedule order).finished_moves_perm
  refine ⟨⟨_, hfound, hperm⟩, s, hresult, ?_, ?_, ?_, h.count_add hset,
    fun p q hp hq => MapTool.eq_of_entryArguments_eq hp hq,
    mapTool.ran machine mapPath (finished (schedule order).moves), ?_, ?_, ?_⟩
  · rw [h.discovered, ← hperm.length_eq]
    exact (Pid.distinct_perm_dedup named).length_eq
  · intro p
    rw [h.mem_inserted, horder, MapTool.outcome_eq_ok_iff hreal]
  · intro p e
    rw [h.mem_failed, horder, MapTool.outcome_eq_error_iff hreal]
  · exact (hdone.nodup_iff.mpr hset).filter _
  · intro p
    rw [MapTool.mem_ran, hdone.mem_iff, horder]
  · show source.calls ++ (pass.writeAll order (schedule order)).calls = _
    rw [SocketTool.calls_discover hfinished, harguments, calls_writeAll,
      MapTool.flatMap_calls_write hreal]
    rfl

/-- Four processes in some order: one has no key, and of the runs for the others one succeeds,
one fails and one takes too long. -/
theorem summary_tells_runs_of_four :
    let bytes := fun (text : String) => text.toList.map fun c => UInt8.ofNat c.toNat
    let listing : Finished := ⟨.ofExit 0, bytes "pid=7, pid=9, pid=5, pid=4294967296, pid=x", []⟩
    let machine : Machine :=
      { reply := fun program arguments =>
          if program = "ss" then .finished listing
          else if arguments[6]? = some "07" then .finished ⟨.ofExit 0, [], []⟩
          else if arguments[6]? = some "09" then .finished ⟨.ofExit 3, [], bytes " no map\n"⟩
          else .outlived
        command := fun program _ => program }
    let listTool : SocketTool := ⟨"ss", ["-ptuna"], .ofMillis 20⟩
    let mapTool : MapTool := ⟨"bpftool", .ofMillis 30, false⟩
    let pass : Pass := ⟨mapTool.target machine "/map", 2⟩
    let order : List Pid := [9, 4294967296, 5, 7]
    let report := pass.reconcile { listTool.discover machine with value := .ok order }
    attempt machine "ss" ["-ptuna"] = .finished listing ∧
      ∃ s, report.result = .ok s ∧ s.discovered = 4 ∧
        s.insertedCount + s.failedCount = s.discovered ∧ 7 ∈ s.inserted ∧
        (9, .update (.failed "bpftool" (.ofExit 3) "no map")) ∈ s.failed ∧
        (5, .update (.launch (.timeout "bpftool" (.ofMillis 30)))) ∈ s.failed ∧
        (4294967296, .outOfRange ⟨4294967296⟩) ∈ s.failed := by
  intro bytes listing machine listTool mapTool pass order report
  have hlisted : attempt machine "ss" ["-ptuna"] = .finished listing := rfl
  have hnamed : Marker.pids (Text.lines (Utf8.decodeLossy listing.stdout)) =
      [7, 9, 5, 4294967296] := by decide +kernel
  have hseven : attempt machine "bpftool" (MapTool.entryArguments "/map" 7) =
      .finished ⟨.ofExit 0, [], []⟩ := rfl
  have hnine : attempt machine "bpftool" (MapTool.entryArguments "/map" 9) =
      .finished ⟨.ofExit 3, [], bytes " no map\n"⟩ := rfl
  have hfive : attempt machine "bpftool" (MapTool.entryArguments "/map" 5) = .outlived := rfl
  obtain ⟨-, s, hresult, hdiscovered, hinserted, hfailed, hcount, -⟩ :=
    summary_tells_runs machine listTool mapTool "/map" 2 (Schedule.eager pass.limit_pos) listing
      order rfl rfl hlisted rfl (by decide) (by
        intro p
        rw [hnamed]
        simp only [order, List.mem_cons]
        tauto)
  rw [hnamed] at hdiscovered hinserted hfailed
  refine ⟨hlisted, s, hresult, hdiscovered.trans (by decide), hcount, ?_, ?_, ?_, ?_⟩
  · exact (hinserted 7).mpr ⟨by decide, by decide, _, hseven, rfl⟩
  · refine (hfailed 9 _).mpr ⟨by decide, .inr ⟨by decide, _, ?_, rfl⟩⟩
    show (attempt machine "bpftool" (MapTool.entryArguments "/map" 9)).Fault _ _ _
    rw [hnine]
    exact .finished _ (by decide)
  · refine (hfailed 5 _).mpr ⟨by decide, .inr ⟨by decide, _, ?_, rfl⟩⟩
    show (attempt machine "bpftool" (MapTool.entryArguments "/map" 5)).Fault _ _ _
    rw [hfive]
    exact .outlived
  · exact (hfailed 4294967296 _).mpr ⟨by decide, .inl ⟨by decide, rfl⟩⟩

end Pass
end SocketCensus
