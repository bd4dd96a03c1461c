import Mathlib.Data.List.Count
import Mathlib.Data.List.Nodup
import SocketCensus.Proofs.Pass.Conservation

/-!
The window of a pass never overflows and never stalls. Whatever moves are made, no more writes
are in it than it has room for, and as long as a process has no outcome some move is left; each
move takes a pass one step nearer to its end. If updates are patient, that is if none finishes
while another one could still start, the window fills up with updates as far as there is room and
as far as there are processes with keys.
-/
namespace SocketCensus

namespace Window

variable {limit : Nat} {w next last : Window} {m : Move} {steps : List (Move × Window)}

/-- An update can start before any update finishes; processes without a key may come and go. -/
def MayUpdate (limit : Nat) (w : Window) : Prop :=
  ∃ steps last p, Run limit w steps last ∧ .start p ∈ steps.map Prod.fst ∧ Key.Fits p ∧
    ∀ q, .finish q ∈ steps.map Prod.fst → ¬ Key.Fits q

/-- An update finishes only when no other can start before that. -/
inductive Patient (limit : Nat) : Window → List (Move × Window) → Prop
  | nil (w : Window) : Patient limit w []
  | cons {w next : Window} {m : Move} {rest : List (Move × Window)} :
      (∀ p, m = .finish p → Key.Fits p → ¬ MayUpdate limit w) → Patient limit next rest →
      Patient limit w ((m, next) :: rest)

def demanding (w : Window) : List Pid := w.waiting.filter fun p => decide (Key.Fits p)

def outstanding (w : Window) : Nat := w.updating.length + w.demanding.length

theorem updating_length (w : Window) :
    w.updating.length = w.running.countP fun p => decide (Key.Fits p) :=
  List.countP_eq_length_filter.symm

theorem updating_le_running (w : Window) : w.updating.length ≤ w.running.length :=
  List.length_filter_le _ _

/-- What a move does to the updates: one more by a start, one less by a finish, if the process
has a key. -/
theorem updating_move (h : w.move? limit m = some next) :
    (∃ p, m = .start p ∧ p ∈ w.waiting ∧ w.running.length < limit ∧
      next.updating.length = w.updating.length + (if Key.Fits p then 1 else 0) ∧
      next.demanding.length + (if Key.Fits p then 1 else 0) = w.demanding.length) ∨
    ∃ p, m = .finish p ∧ next.updating.length + (if Key.Fits p then 1 else 0) = w.updating.length ∧
      next.demanding = w.demanding := by
  rcases move?_cases h with ⟨p, rest, rfl, hwaiting, hroom, rfl⟩ | ⟨p, hp, rfl, rfl⟩
  · refine Or.inl ⟨p, rfl, by simp [hwaiting], hroom, ?_, ?_⟩
    · by_cases hfits : Key.Fits p
      · simp [updating, hfits]
      · simp [updating, hfits]
    · by_cases hfits : Key.Fits p
      · simp [demanding, hwaiting, hfits]
      · simp [demanding, hwaiting, hfits]
  · refine Or.inr ⟨p, rfl, ?_, rfl⟩
    rw [updating_length, updating_length, List.countP_erase]
    by_cases hfits : Key.Fits p
    · have hpositive : 0 < w.running.countP fun q => decide (Key.Fits q) :=
        List.countP_pos_iff.mpr ⟨p, hp, by simpa using hfits⟩
      simp only [hp, hfits, decide_true, and_self, if_true]
      omega
    · simp [hfits]

theorem running_move (h : w.move? limit m = some next) (hw : w.running.length ≤ limit) :
    next.running.length ≤ limit := by
  rcases move?_cases h with ⟨p, rest, -, -, hroom, rfl⟩ | ⟨p, -, -, rfl⟩
  · rw [List.length_append, List.length_singleton]
    exact hroom
  · exact Nat.le_trans List.length_erase_le hw

theorem running_run (h : Run limit w steps last) (hw : w.running.length ≤ limit) :
    last.running.length ≤ limit := by
  induction h with
  | nil w => exact hw
  | cons hmove _ ih => exact ih (running_move hmove hw)

theorem debt_run (h : Run limit w steps last) : steps.length + last.debt = w.debt := by
  induction h with
  | nil w => simp
  | cons hmove _ ih =>
    have hstep := debt_move hmove
    rw [List.length_cons]
    omega

/-- Before the end a write can start or one that has started can finish. -/
theorem exists_move (hlimit : 0 < limit) (hw : ¬ w.Ended) :
    (∃ p next, w.move? limit (.start p) = some next) ∨
      ∃ p next, w.move? limit (.finish p) = some next := by
  rcases eager_cases hlimit w with ⟨-, hended⟩ | ⟨m, next, -, hmove⟩
  · exact absurd hended hw
  · cases m with
    | start p => exact Or.inl ⟨p, next, hmove⟩
    | finish p => exact Or.inr ⟨p, next, hmove⟩

theorem ended_iff_finished_length (h : Run limit w steps last) :
    last.Ended ↔ last.finished.length = w.members.length := by
  have hlength := (members_run h).length_eq
  rw [members, List.length_append, List.length_append] at hlength
  simp only [Ended, ← List.length_eq_zero_iff]
  omega

namespace MayUpdate

/-- What can be done after a move that finishes no update can be done before it. -/
theorem behind (hmove : w.move? limit m = some next)
    (hm : ∀ p, m = .finish p → ¬ Key.Fits p) (h : MayUpdate limit next) : MayUpdate limit w := by
  obtain ⟨steps, last, p, hrun, hstart, hfits, hfinish⟩ := h
  refine ⟨(m, next) :: steps, last, p, .cons hmove hrun, List.mem_cons_of_mem m hstart, hfits, ?_⟩
  intro q hq
  rcases List.mem_cons.mp hq with heq | hlater
  · exact hm q heq.symm
  · exact hfinish q hlater

theorem room (h : MayUpdate limit w) : w.updating.length < limit ∧ w.demanding ≠ [] := by
  obtain ⟨steps, last, p, hrun, hstart, hfits, hfinish⟩ := h
  induction hrun with
  | nil w => simp at hstart
  | @cons w next last move rest hmove _ ih =>
    have hlater := fun hmem => ih hmem fun x hx => hfinish x (List.mem_cons_of_mem move hx)
    rcases updating_move hmove with ⟨q, rfl, hq, hspace, hupdating, hdemanding⟩ |
      ⟨q, rfl, hupdating, hdemanding⟩
    · by_cases hkey : Key.Fits q
      · have hmem : q ∈ w.demanding := List.mem_filter.mpr ⟨hq, by simpa using hkey⟩
        exact ⟨Nat.lt_of_le_of_lt (updating_le_running w) hspace, List.ne_nil_of_mem hmem⟩
      · have hother : Move.start p ≠ Move.start q := by
          intro heq
          exact hkey (Move.start.inj heq ▸ hfits)
        obtain ⟨hless, hne⟩ := hlater ((List.mem_cons.mp hstart).resolve_left hother)
        rw [if_neg hkey] at hupdating hdemanding
        rw [ne_eq, ← List.length_eq_zero_iff] at hne ⊢
        omega
    · have hkey : ¬ Key.Fits q := hfinish q List.mem_cons_self
      obtain ⟨hless, hne⟩ := hlater (by simpa using hstart)
      rw [if_neg hkey] at hupdating
      exact ⟨by omega, hdemanding ▸ hne⟩

/-- With room for one more update, the processes without a key are no hindrance: those that run
can finish, and those that wait in front can start. -/
theorem of_room (hroom : w.updating.length < limit) (hne : w.demanding ≠ []) :
    MayUpdate limit w := by
  induction hdebt : w.debt using Nat.strongRecOn generalizing w with
  | _ n ih =>
    by_cases hspace : w.running.length < limit
    · have hwaiting : w.waiting ≠ [] := by
        intro hempty
        exact hne (by simp [demanding, hempty])
      obtain ⟨q, rest, hfirst⟩ := List.exists_cons_of_ne_nil hwaiting
      have hmove := move?_start hfirst hspace
      by_cases hkey : Key.Fits q
      · exact ⟨_, _, q, .cons hmove (.nil _), by simp, hkey, by simp⟩
      · refine behind hmove (by simp) (ih _ ?_ ?_ ?_ rfl)
        · have := debt_move hmove
          omega
        · simpa [updating, hkey] using hroom
        · simpa [demanding, hfirst, hkey] using hne
    · have hlength : w.updating.length < w.running.length := by omega
      obtain ⟨q, hq, hkey⟩ := List.length_filter_lt_length_iff_exists.mp hlength
      have hunfit : ¬ Key.Fits q := by simpa using hkey
      have hmove := move?_finish limit hq
      refine behind hmove ?_ (ih _ ?_ ?_ hne rfl)
      · intro p hp
        exact Move.finish.inj hp ▸ hunfit
      · have := debt_move hmove
        omega
      · simp only [updating, ← List.countP_eq_length_filter, List.countP_erase] at hroom ⊢
        omega

end MayUpdate

theorem peak_cons (m : Move) (next : Window) (rest : List (Move × Window)) :
    peak ((m, next) :: rest) = max next.updating.length (peak rest) := by
  have hstart (most : Nat) :
      rest.foldl (fun most step => max most step.2.updating.length) most = max most (peak rest) := by
    induction rest generalizing most with
    | nil => simp [peak]
    | cons step rest ih =>
      rw [peak, List.foldl_cons, List.foldl_cons, ih, ih, Nat.zero_max, Nat.max_assoc]
  rw [peak, List.foldl_cons, hstart, Nat.zero_max]

theorem peak_le (h : Run limit w steps last) (hw : w.running.length ≤ limit) :
    peak steps ≤ min limit w.outstanding := by
  induction h with
  | nil w => simp [peak]
  | @cons w next last m rest hmove _ ih =>
    have hnext := running_move hmove hw
    have hroom := updating_le_running next
    have hless : next.outstanding ≤ w.outstanding := by
      rcases updating_move hmove with ⟨p, -, -, -, hupdating, hdemanding⟩ |
        ⟨p, -, hupdating, hdemanding⟩
      · simp only [outstanding]
        omega
      · rw [outstanding, outstanding, hdemanding]
        omega
    have hin : next.updating.length ≤ next.outstanding := Nat.le_add_right _ _
    have hrest := ih hnext
    rw [peak_cons]
    omega

/-- Patient updates fill the window before the first of them finishes. -/
theorem le_peak (h : Run limit w steps last) (hended : last.Ended) (hpatient : Patient limit w steps) :
    min limit w.outstanding ≤ max w.updating.length (peak steps) := by
  induction h with
  | nil w =>
    obtain ⟨hwaiting, hrunning⟩ := hended
    simp [outstanding, updating, demanding, hwaiting, hrunning]
  | @cons w next last m rest hmove _ ih =>
    cases hpatient with
    | cons hm hrest =>
      have hlater := ih hended hrest
      rw [peak_cons]
      rcases updating_move hmove with ⟨p, -, -, -, hupdating, hdemanding⟩ |
        ⟨p, rfl, hupdating, hdemanding⟩
      · simp only [outstanding] at hlater ⊢
        omega
      · by_cases hkey : Key.Fits p
        · have hfull : limit ≤ w.updating.length ∨ w.demanding = [] := by
            by_contra hnot
            rw [not_or, Nat.not_le] at hnot
            exact hm p rfl hkey (MayUpdate.of_room hnot.1 hnot.2)
          rcases hfull with hfull | hnone
          · omega
          · simp only [outstanding, hnone, List.length_nil]
            omega
        · rw [if_neg hkey] at hupdating
          simp only [outstanding, hdemanding] at hlater ⊢
          omega

/-- If the eager choice lets an update finish, then nothing but updates runs, and there is no room
for more or nothing that waits. -/
theorem eager_finish {p : Pid} (h : w.eager limit = some (.finish p)) (hp : Key.Fits p) :
    (w.waiting = [] ∨ limit ≤ w.running.length) ∧ w.updating = w.running := by
  have hleave (h : eager.leave w = some (.finish p)) : w.updating = w.running := by
    unfold eager.leave at h
    split at h
    · rename_i q hfind
      have hq : ¬ Key.Fits q := by simpa using List.find?_some hfind
      exact absurd (Move.finish.inj (Option.some.inj h) ▸ hp) hq
    · rename_i hfind
      refine List.filter_eq_self.mpr ?_
      simpa using hfind
  unfold eager at h
  split at h
  · rename_i q rest hwaiting
    split at h
    · cases h
    · rename_i hroom
      exact ⟨Or.inr (Nat.not_lt.mp hroom), hleave h⟩
  · rename_i hwaiting
    exact ⟨Or.inl hwaiting, hleave h⟩

theorem patient_eagerRun (limit count : Nat) (w : Window) :
    Patient limit w (eagerRun limit count w) := by
  induction count generalizing w with
  | zero => exact .nil w
  | succ count ih =>
    rw [eagerRun]
    split
    · exact .nil w
    · rename_i m hm
      split
      · exact .nil w
      · rename_i next hnext
        refine .cons ?_ (ih next)
        intro p hp hkey hmay
        obtain ⟨hwhy, hall⟩ := eager_finish (hp ▸ hm) hkey
        obtain ⟨hroom, hne⟩ := hmay.room
        rw [hall] at hroom
        rcases hwhy with hwaiting | hfull
        · exact hne (by simp [demanding, hwaiting])
        · omega

end Window

namespace Schedule

variable {limit : Nat} {ps : List Pid}

/-- With patient updates, as many are in progress at once as there is room for and as there are
processes with a key, wherever the others stand in the order. -/
theorem peak_of_patient (s : Schedule limit ps)
    (hpatient : Window.Patient limit (Window.opening ps) s.steps) :
    Window.peak s.steps = min limit (ps.filter fun p => decide (Key.Fits p)).length := by
  obtain ⟨last, hrun, hended⟩ := s.ends
  have houtstanding : (Window.opening ps).outstanding =
      (ps.filter fun p => decide (Key.Fits p)).length := by
    simp [Window.outstanding, Window.updating, Window.demanding, Window.opening]
  have hupper := Window.peak_le hrun (by simp [Window.opening])
  have hlower := Window.le_peak hrun hended hpatient
  have hnone : (Window.opening ps).updating.length = 0 := rfl
  rw [houtstanding] at hupper hlower
  omega

end Schedule

namespace Pass

/-- The window of a pass over distinct processes holds no more than the number of writes that may
run at once, of which there is at least one; it always has a move left while a process has no
outcome; and it starts and finishes each process once. With patient updates it fills up. -/
theorem window_fills_and_empties (pass : Pass) (ps : List Pid) (hset : ps.Nodup) :
    (∀ steps w, Window.Run pass.limit (Window.opening ps) steps w →
      w.updating.length ≤ max 1 pass.concurrency ∧ w.running.length ≤ max 1 pass.concurrency ∧
      (∀ p ∈ ps, p ∉ w.finished →
        (∃ q next, w.move? pass.limit (.start q) = some next) ∨
          ∃ q next, w.move? pass.limit (.finish q) = some next) ∧
      steps.length ≤ 2 * ps.length ∧
      (∀ p, (started (steps.map Prod.fst)).count p ≤ 1 ∧
        (finished (steps.map Prod.fst)).count p ≤ 1) ∧
      (w.Ended ↔ (finished (steps.map Prod.fst)).length = ps.length) ∧
      (w.Ended → ∀ p ∈ ps, (started (steps.map Prod.fst)).count p = 1 ∧
        (finished (steps.map Prod.fst)).count p = 1)) ∧
    ∀ schedule : Schedule pass.limit ps,
      Window.Patient pass.limit (Window.opening ps) schedule.steps →
      (pass.writeAll ps schedule).peak =
        min (max 1 pass.concurrency) (ps.filter fun p => decide (Key.Fits p)).length := by
  constructor
  · intro steps w hrun
    have hroom : w.running.length ≤ pass.limit :=
      Window.running_run hrun (by simp [Window.opening])
    have hmembers : (w.waiting ++ w.running ++ w.finished).Perm ps := by
      have hkept := Window.members_run hrun
      rwa [Window.members_opening] at hkept
    have hstarted : ps = started (steps.map Prod.fst) ++ w.waiting := Window.waiting_run hrun
    have hfinished : w.finished = finished (steps.map Prod.fst) := Window.finished_run hrun
    have hnodup := hmembers.nodup_iff.mpr hset
    refine ⟨Nat.le_trans (Window.updating_le_running w) hroom, hroom, ?_, ?_, ?_, ?_, ?_⟩
    · intro p hp hnone
      apply Window.exists_move pass.limit_pos
      intro hended
      have hmem := hmembers.mem_iff.mpr hp
      rw [hended.1, hended.2] at hmem
      exact hnone (by simpa using hmem)
    · have hdebt := Window.debt_run hrun
      simp only [Window.debt, Window.opening, List.length_nil] at hdebt
      omega
    · intro p
      rw [hstarted] at hset
      have hparts := List.Nodup.of_append_right hnodup
      exact ⟨List.nodup_iff_count_le_one.mp (List.Nodup.of_append_left hset) p,
        List.nodup_iff_count_le_one.mp (hfinished ▸ hparts) p⟩
    · rw [Window.ended_iff_finished_length hrun, Window.members_opening, hfinished]
    · intro hended p hp
      rw [hended.1, hended.2, hfinished, List.nil_append, List.nil_append] at hmembers
      rw [hended.1, List.append_nil] at hstarted
      rw [← hstarted, hmembers.count_eq]
      exact ⟨List.count_eq_one_of_mem hset hp, List.count_eq_one_of_mem hset hp⟩
  · intro schedule hpatient
    have hpeak := schedule.peak_of_patient hpatient
    unfold writeAll
    split
    · rename_i hempty
      simp [hempty]
    · exact hpeak

/-- The narrowest and the widest setting, with two processes that have no key among four. -/
theorem window_fills_and_empties_at_the_ends :
    let target : Target := ⟨"/map", fun _ _ => .silent (.ok ())⟩
    let ps : List Pid := [4294967296, 7, -1, 9]
    let narrow : Pass := ⟨target, 0⟩
    let wide : Pass := ⟨target, 18446744073709551615⟩
    ps.Nodup ∧ (narrow.reconcile (.silent (.ok ps))).peak = 1 ∧
      (wide.reconcile (.silent (.ok ps))).peak = 2 := by
  intro target ps narrow wide
  have hset : ps.Nodup := by decide
  have hnarrow := (window_fills_and_empties narrow ps hset).2 (Schedule.eager narrow.limit_pos ps)
    (Window.patient_eagerRun _ _ _)
  have hwide := (window_fills_and_empties wide ps hset).2 (Schedule.eager wide.limit_pos ps)
    (Window.patient_eagerRun _ _ _)
  exact ⟨hset, hnarrow, hwide⟩

end Pass
end SocketCensus
