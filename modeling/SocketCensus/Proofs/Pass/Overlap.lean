import SocketCensus.Proofs.Pass.Effect

/-!
Passes that run at the same time. Their moves come in any order, and each pass goes on in its own
window as if it were alone; only the map is common to them. As it is decided by the writes that
succeed, whatever their order, the passes might as well have run one after the other.
-/
namespace SocketCensus

namespace Window

variable {limit : Nat} {w last : Window}

theorem finished_perm_of_ended {steps : List (Move × Window)} (h : Run limit w steps last)
    (hended : last.Ended) :
    (Pass.finished (steps.map Prod.fst)).Perm (w.waiting ++ w.running) := by
  obtain ⟨hwaiting, hrunning⟩ := hended
  have hmembers := members_run h
  rw [members, members, hwaiting, hrunning, finished_run h, List.append_nil, List.nil_append] at hmembers
  have hfront := hmembers.trans List.perm_append_comm
  exact (List.perm_append_left_iff w.finished).mp hfront

end Window

namespace World

variable {w next last : World} {index : Nat} {move : Move} {moves : List (Nat × Move)}

def passes (w : World) : List Pass := w.underway.map Underway.pass

/-- Moves of the passes under way, each told with the place of its pass, and nothing else. -/
inductive Overlap : World → List (Nat × Move) → World → Prop
  | nil (w : World) : Overlap w [] w
  | cons {w next last : World} {index : Nat} {move : Move} {rest : List (Nat × Move)} :
      w.next? (.moved index move) = some next → Overlap next rest last →
      Overlap w ((index, move) :: rest) last

def own (index : Nat) (moves : List (Nat × Move)) : List Move :=
  moves.filterMap fun x => if x.1 = index then some x.2 else none

theorem own_cons (index i : Nat) (move : Move) (rest : List (Nat × Move)) :
    own index ((i, move) :: rest) = if i = index then move :: own index rest else own index rest := by
  by_cases hi : i = index
  · simp [own, hi]
  · simp [own, hi]

def finishedWrite? (passes : List Pass) : Nat × Move → Option (Pid × Except WriteError Unit)
  | (index, .finish p) => passes[index]?.map fun pass => (p, pass.target.outcome p)
  | (_, .start _) => none

/-- A move of a pass changes the window of that pass, and the map by what it finishes. -/
theorem next?_moved (h : w.next? (.moved index move) = some next) :
    ∃ u window, w.underway[index]? = some u ∧ u.window.move? u.pass.limit move = some window ∧
      next = ⟨u.pass.effect w.map move, w.underway.set index ⟨u.pass, window⟩⟩ := by
  simp only [next?] at h
  cases hu : w.underway[index]? with
  | none =>
    rw [hu] at h
    contradiction
  | some u =>
    rw [hu] at h
    obtain ⟨window, hmove, hnext⟩ := Option.map_eq_some_iff.mp h
    exact ⟨u, window, rfl, hmove, hnext.symm⟩

theorem passes_moved (h : w.next? (.moved index move) = some next) : next.passes = w.passes := by
  obtain ⟨u, window, hu, -, rfl⟩ := next?_moved h
  apply List.ext_getElem?
  intro i
  simp only [passes, List.getElem?_map, List.getElem?_set]
  by_cases hi : index = i
  · subst hi
    obtain ⟨hlength, hget⟩ := List.getElem?_eq_some_iff.mp hu
    simp [hlength, hget]
  · simp [hi]

/-- Each pass makes a run of its own, by the rules of its own window. -/
theorem run_of_overlap (h : Overlap w moves last) {u : Underway}
    (hu : w.underway[index]? = some u) :
    ∃ window steps, last.underway[index]? = some ⟨u.pass, window⟩ ∧
      Window.Run u.pass.limit u.window steps window ∧ steps.map Prod.fst = own index moves := by
  induction h generalizing u with
  | nil w => exact ⟨u.window, [], hu, .nil _, rfl⟩
  | @cons w next last i move rest hnext _ ih =>
    obtain ⟨v, window, hv, hmove, rfl⟩ := next?_moved hnext
    by_cases hi : i = index
    · subst hi
      have hsame : v = u := Option.some.inj (hv.symm.trans hu)
      subst hsame
      have hlength : i < w.underway.length := (List.getElem?_eq_some_iff.mp hu).1
      obtain ⟨final, steps, hlast, hrun, hsteps⟩ :=
        ih (List.getElem?_set_self hlength : _ = some (⟨v.pass, window⟩ : Underway))
      exact ⟨final, (move, window) :: steps, hlast, .cons hmove hrun,
        by simp [own_cons, hsteps]⟩
    · have hother : (w.underway.set i ⟨v.pass, window⟩)[index]? = some u := by
        rw [List.getElem?_set_ne hi, hu]
      obtain ⟨final, steps, hlast, hrun, hsteps⟩ := ih hother
      exact ⟨final, steps, hlast, hrun, by simp [own_cons, hi, hsteps]⟩

theorem map_overlap (h : Overlap w moves last) :
    last.map = w.map.written (moves.filterMap (finishedWrite? w.passes)) := by
  induction h with
  | nil w => rfl
  | @cons w next last i move rest hnext _ ih =>
    rw [ih, passes_moved hnext]
    obtain ⟨u, window, hu, -, rfl⟩ := next?_moved hnext
    have hpass : w.passes[i]? = some u.pass := by simp [passes, hu]
    cases move with
    | start p => rfl
    | finish p =>
      have hwrite : finishedWrite? w.passes (i, .finish p) = some (p, u.pass.target.outcome p) := by
        simp [finishedWrite?, hpass]
      rw [List.filterMap_cons_some hwrite]
      simp only [Pass.effect, Target.commit_eq_apply]
      rfl

theorem mem_finished_own {p : Pid} :
    p ∈ Pass.finished (own index moves) ↔ (index, .finish p) ∈ moves := by
  induction moves with
  | nil => simp [own, Pass.finished]
  | cons x rest ih =>
    obtain ⟨i, move⟩ := x
    by_cases hi : i = index
    · cases move with
      | start q => simpa [own_cons, Pass.finished, hi] using ih
      | finish q => simpa [own_cons, Pass.finished, hi, eq_comm] using or_congr_right ih
    · have hi' : ¬ index = i := fun h => hi h.symm
      simpa [own_cons, hi, hi'] using ih

theorem mem_finishedWrites {ps : List Pass} {p : Pid} {result : Except WriteError Unit} :
    (p, result) ∈ moves.filterMap (finishedWrite? ps) ↔
      ∃ i pass, ps[i]? = some pass ∧ p ∈ Pass.finished (own i moves) ∧
        pass.target.outcome p = result := by
  simp only [List.mem_filterMap, mem_finished_own]
  constructor
  · intro h
    obtain ⟨⟨i, move⟩, hmem, hwrite⟩ := h
    cases move with
    | start q => simp [finishedWrite?] at hwrite
    | finish q =>
      obtain ⟨pass, hpass, heq⟩ := Option.map_eq_some_iff.mp hwrite
      obtain ⟨rfl, hresult⟩ := Prod.mk.inj heq
      exact ⟨i, pass, hpass, hmem, hresult⟩
  · intro h
    obtain ⟨i, pass, hpass, hmem, hresult⟩ := h
    exact ⟨(i, .finish p), hmem, by simp [finishedWrite?, hpass, hresult]⟩

/-- When all passes have ended, each has written all that it had to write, and the map shows
nothing of the order. -/
theorem map_of_ended (h : Overlap w moves last) (hended : ∀ u ∈ last.underway, u.window.Ended) :
    last.map = w.map.written
      (w.underway.flatMap fun u => u.pass.target.outcomes (u.window.waiting ++ u.window.running)) := by
  have hfinished {i : Nat} {u : Underway} (hu : w.underway[i]? = some u) :
      (Pass.finished (own i moves)).Perm (u.window.waiting ++ u.window.running) := by
    obtain ⟨window, steps, hlast, hrun, hsteps⟩ := run_of_overlap h hu
    have hend : window.Ended := hended _ (List.mem_of_getElem? hlast)
    exact hsteps ▸ Window.finished_perm_of_ended hrun hend
  rw [map_overlap h]
  apply TrafficMap.written_eq_of_mem_iff
  intro p
  simp only [mem_finishedWrites, List.mem_flatMap, Target.mem_outcomes]
  constructor
  · intro hwritten
    obtain ⟨i, pass, hpass, hp, hok⟩ := hwritten
    rw [passes, List.getElem?_map] at hpass
    obtain ⟨u, hu, rfl⟩ := Option.map_eq_some_iff.mp hpass
    exact ⟨u, List.mem_of_getElem? hu, (hfinished hu).mem_iff.mp hp, hok⟩
  · intro hwritten
    obtain ⟨u, hmem, hp, hok⟩ := hwritten
    obtain ⟨i, hu⟩ := List.mem_iff_getElem?.mp hmem
    exact ⟨i, u.pass, by simp [passes, hu], (hfinished hu).mem_iff.mpr hp, hok⟩

/-- The moves of one of several passes that begin together and end are a schedule of it. -/
theorem exists_schedule (index : Nat) (h : Overlap w moves last)
    (hended : ∀ u ∈ last.underway, u.window.Ended) {pass : Pass} {ps : List Pid}
    (hu : w.underway[index]? = some ⟨pass, Window.opening ps⟩) :
    ∃ schedule : Schedule pass.limit ps, schedule.moves = own index moves := by
  obtain ⟨window, steps, hlast, hrun, hsteps⟩ := run_of_overlap h hu
  exact ⟨⟨steps, window, hrun, hended _ (List.mem_of_getElem? hlast)⟩, hsteps⟩

end World

namespace Pass

def withConcurrency (pass : Pass) (concurrency : Nat) : Pass := ⟨pass.target, concurrency⟩

variable {ps others : List Pid} {pass : Pass} {source : Traced (Except ToolError (List Pid))}

/-- Neither the order in which the processes are taken, nor the number of writes at once, nor the
schedule can be told from a summary. -/
theorem exists_result {concurrency : Nat} (hset : ps.Nodup) (hperm : others.Perm ps)
    (hfound : source.value = .ok others) (schedule : Schedule pass.limit ps)
    (alone : (ps : List Pid) → Schedule (pass.withConcurrency concurrency).limit ps) :
    ∃ s, (pass.writeAll ps schedule).result = .ok s ∧
      ((pass.withConcurrency concurrency).reconcileBy alone source).result = .ok s := by
  obtain ⟨s, hresult, hs⟩ := pass.result_writeAll hset schedule
  obtain ⟨other, hother, ho⟩ :=
    (pass.withConcurrency concurrency).result_writeAll (hperm.nodup_iff.mpr hset) (alone others)
  have hsame : other = s := hs.unique ho hperm
  refine ⟨s, hresult, ?_⟩
  rw [← hsame, ← hother, reconcileBy, hfound]

theorem foldl_effect_reconcileBy {concurrency : Nat} (hperm : others.Perm ps)
    (hfound : source.value = .ok others)
    (alone : (ps : List Pid) → Schedule (pass.withConcurrency concurrency).limit ps)
    (m : TrafficMap) :
    ((pass.withConcurrency concurrency).reconcileBy alone source).moves.foldl
        (pass.withConcurrency concurrency).effect m = m.written (pass.target.outcomes ps) := by
  rw [reconcileBy, hfound]
  show ((pass.withConcurrency concurrency).writeAll others (alone others)).moves.foldl _ m = _
  rw [foldl_effect_writeAll]
  exact m.written_outcomes_of_perm pass.target hperm

end Pass

namespace World

/-- Two passes on one map that run at the same time, in whatever way their moves mix, leave the
map and answer the summaries that they would one after the other, in either order, with any
numbers of writes at once, and however the processes found are ordered. -/
theorem overlap_eq_in_turn (m : TrafficMap) (a b : Pass) (ps qs : List Pid) (hps : ps.Nodup)
    (hqs : qs.Nodup) (moves : List (Nat × Move)) (last : World)
    (hrun : Overlap ⟨m, [⟨a, Window.opening ps⟩, ⟨b, Window.opening qs⟩]⟩ moves last)
    (hended : ∀ u ∈ last.underway, u.window.Ended)
    (ca cb : Nat) (sourceA sourceB : Traced (Except ToolError (List Pid))) (ps' qs' : List Pid)
    (hfoundA : sourceA.value = .ok ps') (hfoundB : sourceB.value = .ok qs')
    (hps' : ps'.Perm ps) (hqs' : qs'.Perm qs)
    (scheduleA : (ps : List Pid) → Schedule (a.withConcurrency ca).limit ps)
    (scheduleB : (ps : List Pid) → Schedule (b.withConcurrency cb).limit ps) :
    let aloneA := (a.withConcurrency ca).reconcileBy scheduleA sourceA
    let aloneB := (b.withConcurrency cb).reconcileBy scheduleB sourceB
    ∃ (mixedA : Schedule a.limit ps) (mixedB : Schedule b.limit qs) (summaryA summaryB : Summary),
      mixedA.moves = own 0 moves ∧ mixedB.moves = own 1 moves ∧
      (a.writeAll ps mixedA).result = .ok summaryA ∧ aloneA.result = .ok summaryA ∧
      (b.writeAll qs mixedB).result = .ok summaryB ∧ aloneB.result = .ok summaryB ∧
      last.map = aloneB.moves.foldl (b.withConcurrency cb).effect
        (aloneA.moves.foldl (a.withConcurrency ca).effect m) ∧
      last.map = aloneA.moves.foldl (a.withConcurrency ca).effect
        (aloneB.moves.foldl (b.withConcurrency cb).effect m) := by
  intro aloneA aloneB
  obtain ⟨mixedA, hmixedA⟩ := exists_schedule 0 hrun hended rfl
  obtain ⟨mixedB, hmixedB⟩ := exists_schedule 1 hrun hended rfl
  obtain ⟨summaryA, hmixA, haloneA⟩ := Pass.exists_result hps hps' hfoundA mixedA scheduleA
  obtain ⟨summaryB, hmixB, haloneB⟩ := Pass.exists_result hqs hqs' hfoundB mixedB scheduleB
  have hmap : last.map = m.written (a.target.outcomes ps ++ b.target.outcomes qs) := by
    rw [map_of_ended hrun hended]
    simp [Window.opening]
  have hA := Pass.foldl_effect_reconcileBy hps' hfoundA scheduleA
  have hB := Pass.foldl_effect_reconcileBy hqs' hfoundB scheduleB
  refine ⟨mixedA, mixedB, summaryA, summaryB, hmixedA, hmixedB, hmixA, haloneA, hmixB, haloneB,
    ?_, ?_⟩
  · rw [hA, hB, hmap, TrafficMap.written_append]
  · rw [hA, hB, hmap, ← TrafficMap.written_append]
    apply TrafficMap.written_eq_of_mem_iff
    intro p
    rw [List.mem_append, List.mem_append, or_comm]

/-- Two passes over process 9, of which one is refused its update, with others besides. -/
theorem overlap_eq_in_turn_over_nine :
    let a : Pass := ⟨⟨"/map", fun _ _ => .silent (.ok ())⟩, 2⟩
    let b : Pass := ⟨⟨"/map", fun key _ =>
      .silent (if key.pid = 9 then .error (.launch (.notFound "tool")) else .ok ())⟩, 1⟩
    let aloneA := (a.withConcurrency 1).reconcile (.silent (.ok [9, 7]))
    let aloneB := (b.withConcurrency 5).reconcile (.silent (.ok [8, 9]))
    ∃ last, Overlap ⟨.empty, [⟨a, Window.opening [7, 9]⟩, ⟨b, Window.opening [9, 8]⟩]⟩
        [(0, .start 7), (1, .start 9), (0, .start 9), (1, .finish 9), (0, .finish 9), (1, .start 8),
          (0, .finish 7), (1, .finish 8)] last ∧
      last.map = aloneA.moves.foldl (a.withConcurrency 1).effect
        (aloneB.moves.foldl (b.withConcurrency 5).effect .empty) ∧
      ∃ mixedB : Schedule b.limit [9, 8], mixedB.moves =
          [.start 9, .finish 9, .start 8, .finish 8] ∧
        (b.writeAll [9, 8] mixedB).result = aloneB.result := by
  intro a b aloneA aloneB
  obtain ⟨map, hrun⟩ : ∃ map, Overlap
      ⟨.empty, [⟨a, Window.opening [7, 9]⟩, ⟨b, Window.opening [9, 8]⟩]⟩
      [(0, .start 7), (1, .start 9), (0, .start 9), (1, .finish 9), (0, .finish 9), (1, .start 8),
        (0, .finish 7), (1, .finish 8)]
      ⟨map, [⟨a, [], [], [9, 7]⟩, ⟨b, [], [], [9, 8]⟩]⟩ :=
    ⟨_, .cons rfl <| .cons rfl <| .cons rfl <| .cons rfl <| .cons rfl <| .cons rfl <| .cons rfl <|
      .cons rfl <| .nil _⟩
  obtain ⟨-, mixedB, -, summaryB, -, hmixedB, -, -, hmixB, haloneB, -, hmap⟩ :=
    overlap_eq_in_turn .empty a b [7, 9] [9, 8] (by decide) (by decide) _ _ hrun
      (by simp [Window.Ended]) 1 5 (.silent (.ok [9, 7])) (.silent (.ok [8, 9])) [9, 7] [8, 9]
      rfl rfl (List.Perm.swap 7 9 []) (List.Perm.swap 9 8 [])
      (Schedule.eager (Pass.limit_pos _)) (Schedule.eager (Pass.limit_pos _))
  exact ⟨_, hrun, hmap, mixedB, hmixedB, hmixB.trans haloneB.symm⟩

end World
end SocketCensus
