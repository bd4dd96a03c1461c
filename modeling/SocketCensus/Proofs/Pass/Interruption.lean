import SocketCensus.Proofs.Pass.Course
import SocketCensus.Proofs.Pass.Overlap

/-!
Passes that are left before their end. Up to any point, a pass has put zeroed counters under the keys
of the updates that have succeeded and has touched nothing else. A later pass over the same set writes
these entries anew together with the missing ones, so that an interruption leaves no trace.
-/
namespace SocketCensus

namespace Pass

/-- By the end of some moves the update of a process has been made and has succeeded. -/
def Succeeded (pass : Pass) (moves : List Move) (p : Pid) : Prop :=
  .finish p ∈ moves ∧
    ∃ u, pass.target.update? p = .ok u ∧ (pass.target.answer u).value = .ok ()

theorem mem_finished {moves : List Move} {p : Pid} : p ∈ finished moves ↔ .finish p ∈ moves := by
  induction moves with
  | nil => simp [finished]
  | cons move rest ih =>
    cases move with
    | start q => simpa [finished] using ih
    | finish q => simpa [finished] using or_congr_right ih

variable {pass : Pass} {moves : List Move}

theorem mem_outcomes_finished {p : Pid} :
    (p, .ok ()) ∈ pass.target.outcomes (finished moves) ↔ pass.Succeeded moves p := by
  rw [Target.mem_outcomes, Target.outcome_eq_ok_iff, mem_finished, Succeeded]

theorem Succeeded.fits {p : Pid} (h : pass.Succeeded moves p) : Key.Fits p := by
  obtain ⟨-, u, hu, -⟩ := h
  exact Target.fits_of_update? hu

/-- At any point of a pass its successful updates are seen in the map and nothing else is. -/
theorem get?_foldl_effect (m : TrafficMap) (key : Key) :
    (pass.Succeeded moves key.pid → (moves.foldl pass.effect m).get? key = some Counters.zero) ∧
    (¬ pass.Succeeded moves key.pid → (moves.foldl pass.effect m).get? key = m.get? key) := by
  rw [foldl_effect, ← mem_outcomes_finished]
  exact ⟨TrafficMap.get?_written_of_mem, TrafficMap.get?_written_of_not_mem⟩

end Pass

namespace Window

theorem mem_of_mem_finished {limit : Nat} {ps : List Pid} {w : Window}
    {steps : List (Move × Window)} (h : Run limit (opening ps) steps w) {p : Pid}
    (hp : .finish p ∈ steps.map Prod.fst) : p ∈ ps := by
  have hmembers := members_run h
  have hfinished : w.finished = Pass.finished (steps.map Prod.fst) := finished_run h
  rw [members_opening] at hmembers
  apply hmembers.mem_iff.mp
  rw [members, hfinished]
  exact List.mem_append_right _ (Pass.mem_finished.mpr hp)

end Window

namespace Pass

/-- Writes that have been made before change nothing about a whole pass. -/
theorem written_again {t : Target} {ps before : List Pid} (h : ∀ p ∈ before, p ∈ ps)
    (m : TrafficMap) :
    (m.written (t.outcomes before)).written (t.outcomes ps) = m.written (t.outcomes ps) := by
  rw [← TrafficMap.written_append]
  apply TrafficMap.written_eq_of_mem_iff
  intro p
  rw [List.mem_append, Target.mem_outcomes, Target.mem_outcomes]
  constructor
  · rintro (⟨hp, hok⟩ | hwhole)
    · exact ⟨h p hp, hok⟩
    · exact hwhole
  · exact Or.inr

/-- A pass may be left at any point: the map is then the one before the pass, with zeroed counters
under the keys whose updates have succeeded. A pass over the same set that is made afterwards, on
whatever course and with whatever number of writes at once, leaves the map and answers the summary of
a single pass that was never left; and to make it once more changes nothing. -/
theorem interrupted_pass_recovers (m : TrafficMap) (pass : Pass) (ps order : List Pid)
    (hset : ps.Nodup) (horder : order.Perm ps) (steps : List (Move × Window)) (w : Window)
    (hrun : Window.Run pass.limit (Window.opening order) steps w)
    (source : Traced (Except ToolError (List Pid))) (hfound : source.value = .ok ps)
    (courseAgain courseOnce : Course) (ca co : Nat) :
    let moves := steps.map Prod.fst
    let left := moves.foldl pass.effect m
    let again := (pass.withConcurrency ca).along courseAgain source
    let once := (pass.withConcurrency co).along courseOnce source
    let whole := once.moves.foldl pass.effect m
    (∀ p, pass.Succeeded moves p → p ∈ ps ∧ Key.Fits p) ∧
    (∀ key p, Key.ofPid p = .ok key → pass.Succeeded moves p →
      ∃ value, left.get? key = some value ∧ value.bytes = List.replicate 16 0) ∧
    (∀ key, (∀ p, Key.ofPid p = .ok key → ¬ pass.Succeeded moves p) →
      left.get? key = m.get? key) ∧
    again.moves.foldl pass.effect left = whole ∧
    again.moves.foldl pass.effect whole = whole ∧
    ∃ s, again.result = .ok s ∧ once.result = .ok s := by
  intro moves left again once whole
  have hmem (p : Pid) (hp : .finish p ∈ moves) : p ∈ ps :=
    horder.mem_iff.mp (Window.mem_of_mem_finished hrun hp)
  have hleft : left = m.written (pass.target.outcomes (finished moves)) := pass.foldl_effect m moves
  have hwhole : whole = m.written (pass.target.outcomes ps) :=
    (pass.withConcurrency co).foldl_effect_along courseOnce hfound m
  have hagain (m : TrafficMap) :
      again.moves.foldl pass.effect m = m.written (pass.target.outcomes ps) :=
    (pass.withConcurrency ca).foldl_effect_along courseAgain hfound m
  refine ⟨fun p hp => ⟨hmem p hp.1, hp.fits⟩, ?_, ?_, ?_, ?_, ?_⟩
  · intro key p hkey hp
    have hpid : key.pid = p := Key.pid_of_ofPid hkey
    subst hpid
    exact ⟨Counters.zero, (get?_foldl_effect m key).1 hp, by decide⟩
  · intro key hnone
    exact (get?_foldl_effect m key).2 (hnone key.pid (Key.ofPid_pid key))
  · rw [hagain, hleft, hwhole]
    exact written_again (fun p hp => hmem p (mem_finished.mp hp)) m
  · rw [hagain, hwhole]
    exact written_again (fun _ hp => hp) m
  · obtain ⟨s, hresult, hs⟩ := (pass.withConcurrency co).result_along courseOnce hset hfound
    obtain ⟨other, hother, ho⟩ := (pass.withConcurrency ca).result_along courseAgain hset hfound
    have hsame : other = s := hs.unique ho (List.Perm.refl ps)
    exact ⟨s, hsame ▸ hother, hresult⟩

/-- Of three processes only 7 has been written when the pass is left, with 9 under way. The entry of
5 stays as it was, and a later pass with fewer writes at once makes up for the rest. -/
theorem interrupted_pass_recovers_from_seven :
    let pass : Pass := ⟨⟨"/map", fun key _ =>
      .silent (if key.pid = 9 then .error (.launch (.notFound "tool")) else .ok ())⟩, 2⟩
    let seven : Key := ⟨[7, 0, 0, 0], rfl⟩
    let five : Key := ⟨[5, 0, 0, 0], rfl⟩
    let m := (TrafficMap.empty.set seven (.ofTraffic ⟨3, 4⟩)).set five (.ofTraffic ⟨8, 1⟩)
    let moves : List Move := [.start 9, .start 7, .finish 7]
    let left := moves.foldl pass.effect m
    let again := (pass.withConcurrency 1).along Course.eager (.silent (.ok [7, 9, 4294967296]))
    let once := pass.along Course.eager (.silent (.ok [7, 9, 4294967296]))
    pass.Succeeded moves 7 ∧ ¬ pass.Succeeded moves 9 ∧ ¬ pass.Succeeded moves 5 ∧
      left.get? seven = some Counters.zero ∧ left.get? five = some (.ofTraffic ⟨8, 1⟩) ∧
      again.moves.foldl pass.effect left = once.moves.foldl pass.effect m ∧
      again.result = once.result := by
  intro pass seven five m moves left again once
  have hrun : Window.Run 2 (Window.opening [9, 7, 4294967296])
      [(.start 9, ⟨[7, 4294967296], [9], []⟩), (.start 7, ⟨[4294967296], [9, 7], []⟩),
        (.finish 7, ⟨[4294967296], [9], [7]⟩)] ⟨[4294967296], [9], [7]⟩ :=
    .cons rfl <| .cons rfl <| .cons rfl <| .nil _
  have hseven : pass.Succeeded moves 7 := ⟨by decide, _, rfl, rfl⟩
  have hunfinished (p : Pid) (hp : p ≠ 7) : ¬ pass.Succeeded moves p := by
    intro hsucceeded
    have hmem := hsucceeded.1
    simp only [moves, List.mem_cons, List.not_mem_nil, or_false, Move.finish.injEq, reduceCtorEq,
      false_or] at hmem
    exact hp hmem
  have horder : List.Perm [9, 7, 4294967296] [(7 : Pid), 9, 4294967296] := List.Perm.swap 7 9 _
  obtain ⟨-, hwritten, hother, hagain, -, s, hresult, hresult'⟩ :=
    interrupted_pass_recovers m pass [7, 9, 4294967296] _ (by decide) horder _ _ hrun
      (.silent (.ok [7, 9, 4294967296])) rfl Course.eager Course.eager 1 2
  obtain ⟨value, hvalue, hbytes⟩ := hwritten seven 7 rfl hseven
  have hzero : value = Counters.zero := by
    cases value
    simpa [Counters.zero, Counters.ofTraffic] using hbytes.trans (by decide)
  refine ⟨hseven, hunfinished 9 (by decide), hunfinished 5 (by decide), hzero ▸ hvalue, ?_, hagain,
    hresult.trans hresult'.symm⟩
  have hnone (p : Pid) (hp : Key.ofPid p = .ok five) : ¬ pass.Succeeded moves p :=
    hunfinished p fun heq => by
      subst heq
      exact absurd hp (by decide)
  exact (hother five hnone).trans rfl

end Pass
end SocketCensus
