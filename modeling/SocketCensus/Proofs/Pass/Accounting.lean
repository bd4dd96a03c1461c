import Mathlib.Data.List.Sort
import SocketCensus.Proofs.Pass.Conservation

/-!
The summary of a pass accounts for every process found. Under any schedule, each process is
either inserted or failed, with the outcome of its own write and of no other; each process that
has a key causes one update, with that key and zeroed counters, and no other process causes any.
-/
namespace SocketCensus

namespace Summary

/-- The summary tells the truth about the writes of the processes found. -/
structure Accounts (t : Target) (ps : List Pid) (s : Summary) : Prop where
  discovered : s.discovered = ps.length
  inserted_ascending : s.inserted.Pairwise (· < ·)
  mem_inserted : ∀ p, p ∈ s.inserted ↔ p ∈ ps ∧ t.outcome p = .ok ()
  failed_ascending : s.failed.Pairwise fun a b => a.1 < b.1
  mem_failed : ∀ p e, (p, e) ∈ s.failed ↔ p ∈ ps ∧ t.outcome p = .error e

theorem mem_filterMap_inserted? {t : Target} {order : List Pid} {p : Pid} :
    p ∈ (order.map fun q => (q, t.outcome q)).filterMap inserted? ↔
      p ∈ order ∧ t.outcome p = .ok () := by
  simp only [List.mem_filterMap, List.mem_map, inserted?_eq_some_iff]
  constructor
  · intro h
    obtain ⟨-, ⟨q, hq, rfl⟩, rfl, hok⟩ := h
    exact ⟨hq, hok⟩
  · intro h
    exact ⟨_, ⟨p, h.1, rfl⟩, rfl, h.2⟩

theorem mem_filterMap_failed? {t : Target} {order : List Pid} {p : Pid} {e : WriteError} :
    (p, e) ∈ (order.map fun q => (q, t.outcome q)).filterMap failed? ↔
      p ∈ order ∧ t.outcome p = .error e := by
  simp only [List.mem_filterMap, List.mem_map, failed?_eq_some_iff]
  constructor
  · intro h
    obtain ⟨-, ⟨q, hq, rfl⟩, rfl, herror⟩ := h
    exact ⟨hq, herror⟩
  · intro h
    exact ⟨_, ⟨p, h.1, rfl⟩, rfl, h.2⟩

/-- Distinct processes stay distinct among the outcomes that are picked out, as long as what is
picked out tells its process. -/
theorem pairwise_ne_filterMap {α : Type} {t : Target} {order : List Pid} (horder : order.Nodup)
    (pick : Pid × Except WriteError Unit → Option α) (key : α → Pid)
    (hpick : ∀ outcome a, pick outcome = some a → key a = outcome.1) :
    ((order.map fun q => (q, t.outcome q)).filterMap pick).Pairwise fun a b => key a ≠ key b := by
  rw [List.pairwise_filterMap, List.pairwise_map]
  refine horder.imp ?_
  intro p q hpq a ha b hb
  rw [hpick _ a ha, hpick _ b hb]
  exact hpq

theorem pairwise_lt_mergeSort {α : Type} (key : α → Int) {xs : List α}
    (h : xs.Pairwise fun a b => key a ≠ key b) :
    (xs.mergeSort fun a b => decide (key a ≤ key b)).Pairwise fun a b => key a < key b := by
  have hsorted : (xs.mergeSort fun a b => decide (key a ≤ key b)).Pairwise
      fun a b => decide (key a ≤ key b) = true := List.pairwise_mergeSort
    (fun a b c hab hbc => by
      simp only [decide_eq_true_eq] at hab hbc ⊢
      omega)
    (fun a b => by
      simp only [Bool.or_eq_true, decide_eq_true_eq]
      omega) xs
  have hdistinct : (xs.mergeSort fun a b => decide (key a ≤ key b)).Pairwise
      fun a b => key a ≠ key b :=
    (List.mergeSort_perm xs _).symm.pairwise h fun hab => Ne.symm hab
  refine (hsorted.and hdistinct).imp ?_
  intro a b hab
  obtain ⟨hle, hne⟩ := hab
  simp only [decide_eq_true_eq] at hle
  omega

/-- Whatever the order in which the writes finish, their outcomes are summed up truly. -/
theorem accounts_ofOutcomes (t : Target) {ps order : List Pid} (hset : ps.Nodup)
    (horder : order.Perm ps) :
    (ofOutcomes ps.length (order.map fun p => (p, t.outcome p))).Accounts t ps where
  discovered := rfl
  inserted_ascending := pairwise_lt_mergeSort id <|
    pairwise_ne_filterMap (horder.nodup_iff.mpr hset) inserted? id
      fun _ _ h => (inserted?_eq_some_iff.mp h).1.symm
  mem_inserted p := by
    simp only [ofOutcomes, List.mem_mergeSort, mem_filterMap_inserted?, horder.mem_iff]
  failed_ascending := pairwise_lt_mergeSort Prod.fst <|
    pairwise_ne_filterMap (horder.nodup_iff.mpr hset) failed? Prod.fst
      fun _ _ h => (failed?_eq_some_iff.mp h).1.symm
  mem_failed p e := by
    simp only [ofOutcomes, List.mem_mergeSort, mem_filterMap_failed?, horder.mem_iff]

theorem accounts_empty (t : Target) : empty.Accounts t [] where
  discovered := rfl
  inserted_ascending := List.Pairwise.nil
  mem_inserted p := by simp [empty]
  failed_ascending := List.Pairwise.nil
  mem_failed p e := by simp [empty]

namespace Accounts

variable {t : Target} {ps : List Pid} {s : Summary}

/-- A summary does not tell in which order a set was gone through. -/
theorem of_perm {order : List Pid} (h : s.Accounts t order) (hperm : order.Perm ps) :
    s.Accounts t ps where
  discovered := h.discovered.trans hperm.length_eq
  inserted_ascending := h.inserted_ascending
  mem_inserted p := by rw [h.mem_inserted, hperm.mem_iff]
  failed_ascending := h.failed_ascending
  mem_failed p e := by rw [h.mem_failed, hperm.mem_iff]

/-- A summary depends on the outcomes of the processes found, not on the target behind them. -/
theorem of_outcome_eq {other : Target} (h : s.Accounts t ps)
    (hsame : ∀ p ∈ ps, t.outcome p = other.outcome p) : s.Accounts other ps where
  discovered := h.discovered
  inserted_ascending := h.inserted_ascending
  mem_inserted p := by
    rw [h.mem_inserted]
    exact and_congr_right fun hp => by rw [hsame p hp]
  failed_ascending := h.failed_ascending
  mem_failed p e := by
    rw [h.mem_failed]
    exact and_congr_right fun hp => by rw [hsame p hp]

theorem mem_failed_pids (h : s.Accounts t ps) (p : Pid) :
    p ∈ s.failed.map Prod.fst ↔ p ∈ ps ∧ ∃ e, t.outcome p = .error e := by
  simp only [List.mem_map, Prod.exists, exists_and_right, exists_eq_right]
  constructor
  · intro hmem
    obtain ⟨e, he⟩ := hmem
    obtain ⟨hp, herror⟩ := (h.mem_failed p e).mp he
    exact ⟨hp, e, herror⟩
  · intro hmem
    obtain ⟨hp, e, herror⟩ := hmem
    exact ⟨e, (h.mem_failed p e).mpr ⟨hp, herror⟩⟩

theorem disjoint (h : s.Accounts t ps) {p : Pid} (hp : p ∈ s.inserted) :
    p ∉ s.failed.map Prod.fst := by
  intro hfailed
  obtain ⟨-, hok⟩ := (h.mem_inserted p).mp hp
  obtain ⟨-, e, herror⟩ := (h.mem_failed_pids p).mp hfailed
  rw [hok] at herror
  contradiction

theorem mem_iff (h : s.Accounts t ps) (p : Pid) :
    p ∈ ps ↔ p ∈ s.inserted ∨ p ∈ s.failed.map Prod.fst := by
  rw [h.mem_inserted, h.mem_failed_pids]
  cases houtcome : t.outcome p with
  | error e => simp
  | ok x => simp

theorem nodup_inserted (h : s.Accounts t ps) : s.inserted.Nodup :=
  h.inserted_ascending.imp fun hab => Int.ne_of_lt hab

theorem nodup_failed_pids (h : s.Accounts t ps) : (s.failed.map Prod.fst).Nodup := by
  rw [List.Nodup, List.pairwise_map]
  exact h.failed_ascending.imp fun hab => Int.ne_of_lt hab

theorem nodup_failed (h : s.Accounts t ps) : s.failed.Nodup := List.Nodup.of_map _ h.nodup_failed_pids

theorem listed_perm (h : s.Accounts t ps) (hset : ps.Nodup) :
    (s.inserted ++ s.failed.map Prod.fst).Perm ps := by
  have hboth : (s.inserted ++ s.failed.map Prod.fst).Nodup := List.nodup_append.mpr
    ⟨h.nodup_inserted, h.nodup_failed_pids, fun p hp q hq hpq => h.disjoint hp (hpq ▸ hq)⟩
  rw [List.perm_ext_iff_of_nodup hboth hset]
  intro p
  rw [List.mem_append, ← h.mem_iff p]

theorem count_add (h : s.Accounts t ps) (hset : ps.Nodup) :
    s.insertedCount + s.failedCount = s.discovered := by
  have hlength := (h.listed_perm hset).length_eq
  rw [List.length_append, List.length_map] at hlength
  rw [insertedCount, failedCount, h.discovered, hlength]

/-- Both lists have one sorted order only, so that it does not matter how they are sorted. -/
theorem sorted_unique (h : s.Accounts t ps) {inserted : List Pid} {failed : List (Pid × WriteError)}
    (hinserted : inserted.Perm s.inserted) (hinserted' : inserted.Pairwise (· ≤ ·))
    (hfailed : failed.Perm s.failed) (hfailed' : failed.Pairwise fun a b => a.1 ≤ b.1) :
    inserted = s.inserted ∧ failed = s.failed := by
  constructor
  · refine List.Perm.eq_of_pairwise (fun a b _ _ hab hba => Int.le_antisymm hab hba) hinserted'
      (h.inserted_ascending.imp fun hab => Int.le_of_lt hab) hinserted
  · refine List.Perm.eq_of_pairwise ?_ hfailed'
      (h.failed_ascending.imp fun hab => Int.le_of_lt hab) hfailed
    intro a b ha hb hab hba
    have hpid : a.1 = b.1 := Int.le_antisymm hab hba
    have ha' := ((h.mem_failed a.1 a.2).mp (hfailed.mem_iff.mp ha)).2
    have hb' := ((h.mem_failed b.1 b.2).mp hb).2
    rw [hpid, hb'] at ha'
    exact Prod.ext hpid (Except.error.inj ha').symm

/-- What is found and how its writes come out decide the summary. -/
theorem unique (h : s.Accounts t ps) {others : List Pid} {other : Summary}
    (hother : other.Accounts t others) (hperm : others.Perm ps) : other = s := by
  have hinserted : other.inserted.Perm s.inserted := by
    refine (List.perm_ext_iff_of_nodup hother.nodup_inserted h.nodup_inserted).mpr ?_
    intro p
    rw [hother.mem_inserted, h.mem_inserted, hperm.mem_iff]
  have hfailed : other.failed.Perm s.failed := by
    refine (List.perm_ext_iff_of_nodup hother.nodup_failed h.nodup_failed).mpr ?_
    intro f
    rw [hother.mem_failed, h.mem_failed, hperm.mem_iff]
  obtain ⟨hsame, hsame'⟩ := h.sorted_unique hinserted
    (hother.inserted_ascending.imp fun hab => Int.le_of_lt hab) hfailed
    (hother.failed_ascending.imp fun hab => Int.le_of_lt hab)
  have hdiscovered : other.discovered = s.discovered := by
    rw [hother.discovered, h.discovered, hperm.length_eq]
  cases other
  cases s
  simp_all

end Accounts
end Summary

namespace Pass

variable {ps : List Pid}

/-- Writing distinct processes succeeds as a whole and is summed up truly. -/
theorem result_writeAll (pass : Pass) (hset : ps.Nodup) (schedule : Schedule pass.limit ps) :
    ∃ s, (pass.writeAll ps schedule).result = .ok s ∧ s.Accounts pass.target ps := by
  unfold writeAll
  split
  · rename_i hempty
    subst hempty
    exact ⟨Summary.empty, rfl, Summary.accounts_empty pass.target⟩
  · exact ⟨_, rfl, Summary.accounts_ofOutcomes pass.target hset schedule.finished_moves_perm⟩

theorem updates_writeAll (pass : Pass) (schedule : Schedule pass.limit ps) :
    (pass.writeAll ps schedule).updates = ps.filterMap fun p => (pass.target.update? p).toOption := by
  unfold writeAll
  split
  · rename_i hempty
    simp [hempty]
  · rw [updates, schedule.started_moves]

end Pass

namespace Target

theorem updates_eq_map (t : Target) (ps : List Pid) :
    (ps.filterMap fun p => (t.update? p).toOption).map
        (fun u => (u.mapPath, u.key.bytes, u.value.bytes)) =
      (ps.filter fun p => decide (Key.Fits p)).map
        fun p => (t.mapPath, LittleEndian.encode 4 p.toNat, List.replicate 16 0) := by
  induction ps with
  | nil => rfl
  | cons p rest ih =>
    cases hupdate : t.update? p with
    | error e =>
      have hfits := (update?_eq_error_iff_not_fits.mp hupdate).1
      simpa [hupdate, hfits, Except.toOption] using ih
    | ok u =>
      obtain ⟨key, hkey, rfl⟩ := update?_eq_ok_iff.mp hupdate
      obtain ⟨hfits, hbytes⟩ := Key.ofPid_eq_ok_iff.mp hkey
      have hzero : Counters.zero.bytes = List.replicate 16 0 := by decide
      simpa [hupdate, hfits, hbytes, hzero, Except.toOption] using ih

end Target

namespace Pass

/-- Whatever the schedule and the answers of the updater, a pass over the distinct processes
found is summed up process by process. No key is updated twice in a pass, so that an updater
may give every single update an answer of its own. -/
theorem reconcileBy_accounts_for_each (pass : Pass)
    (schedule : (ps : List Pid) → Schedule pass.limit ps)
    (source : Traced (Except ToolError (List Pid))) (ps : List Pid)
    (hset : ps.Nodup) (hfound : source.value = .ok ps) :
    ∃ s, (pass.reconcileBy schedule source).result = .ok s ∧
      s.discovered = ps.length ∧
      s.inserted.Pairwise (· < ·) ∧
      (∀ p, p ∈ s.inserted ↔ p ∈ ps ∧ Key.Fits p ∧
        ∃ u, pass.target.update? p = .ok u ∧ (pass.target.answer u).value = .ok ()) ∧
      s.failed.Pairwise (fun a b => a.1 < b.1) ∧
      (∀ p e, (p, e) ∈ s.failed ↔ p ∈ ps ∧ ((¬ Key.Fits p ∧ e = .outOfRange ⟨p⟩) ∨
        ∃ u cause, pass.target.update? p = .ok u ∧
          (pass.target.answer u).value = .error cause ∧ e = .update cause)) ∧
      (∀ p ∈ s.inserted, p ∉ s.failed.map Prod.fst) ∧
      (∀ p, p ∈ ps ↔ p ∈ s.inserted ∨ p ∈ s.failed.map Prod.fst) ∧
      s.insertedCount + s.failedCount = s.discovered ∧
      (∀ inserted failed, inserted.Perm s.inserted → inserted.Pairwise (· ≤ ·) →
        failed.Perm s.failed → failed.Pairwise (fun a b => a.1 ≤ b.1) →
        inserted = s.inserted ∧ failed = s.failed) ∧
      (pass.reconcileBy schedule source).updates.map
          (fun u => (u.mapPath, u.key.bytes, u.value.bytes)) =
        (ps.filter fun p => decide (Key.Fits p)).map
          fun p => (pass.target.mapPath, LittleEndian.encode 4 p.toNat, List.replicate 16 0) := by
  obtain ⟨s, hresult, h⟩ := pass.result_writeAll hset (schedule ps)
  have hupdates := pass.updates_writeAll (schedule ps)
  refine ⟨s, ?_, h.discovered, h.inserted_ascending, ?_, h.failed_ascending, ?_,
    fun p hp => h.disjoint hp, h.mem_iff, h.count_add hset,
    fun inserted failed hinserted hinserted' hfailed hfailed' =>
      h.sorted_unique hinserted hinserted' hfailed hfailed', ?_⟩
  · simpa only [reconcileBy, hfound] using hresult
  · intro p
    rw [h.mem_inserted, Target.outcome_eq_ok_iff]
    constructor
    · intro hmem
      obtain ⟨hp, u, hu, hok⟩ := hmem
      exact ⟨hp, Target.fits_of_update? hu, u, hu, hok⟩
    · intro hmem
      obtain ⟨hp, -, hu⟩ := hmem
      exact ⟨hp, hu⟩
  · intro p e
    rw [h.mem_failed, Target.outcome_eq_error_iff]
    simp only [Target.update?_eq_error_iff_not_fits]
    constructor
    · intro hmem
      rcases hmem with ⟨hp, ⟨cause, ⟨hfits, rfl⟩, rfl⟩ | hcause⟩
      · exact ⟨hp, Or.inl ⟨hfits, rfl⟩⟩
      · exact ⟨hp, Or.inr hcause⟩
    · intro hmem
      rcases hmem with ⟨hp, ⟨hfits, rfl⟩ | hcause⟩
      · exact ⟨hp, Or.inl ⟨⟨p⟩, ⟨hfits, rfl⟩, rfl⟩⟩
      · exact ⟨hp, Or.inr hcause⟩
  · simp only [reconcileBy, hfound, hupdates]
    exact Target.updates_eq_map pass.target ps

/-- Four processes: two without a key, one whose update is refused, one that is written. -/
theorem reconcileBy_accounts_for_four :
    let pass : Pass := ⟨⟨"/map", fun key _ =>
      .silent (if key.pid = 9 then .error (.launch (.notFound "tool")) else .ok ())⟩, 2⟩
    let ps : List Pid := [4294967296, 9, -3, 7]
    ps.Nodup ∧
      ∃ s, (pass.reconcileBy (Schedule.eager pass.limit_pos) (.silent (.ok ps))).result = .ok s ∧
        s.discovered = 4 ∧ s.insertedCount + s.failedCount = s.discovered ∧ 7 ∈ s.inserted ∧
        (9, .update (.launch (.notFound "tool"))) ∈ s.failed ∧
        (-3, .outOfRange ⟨-3⟩) ∈ s.failed ∧ (4294967296, .outOfRange ⟨4294967296⟩) ∈ s.failed := by
  intro pass ps
  have hset : ps.Nodup := by decide
  obtain ⟨s, hresult, hdiscovered, -, hinserted, -, hfailed, -, -, hcount, -⟩ :=
    reconcileBy_accounts_for_each pass (Schedule.eager pass.limit_pos) (.silent (.ok ps)) ps hset rfl
  refine ⟨hset, s, hresult, hdiscovered, hcount, ?_, ?_, ?_, ?_⟩
  · exact (hinserted 7).mpr ⟨by decide, by decide, _, rfl, rfl⟩
  · exact (hfailed 9 _).mpr ⟨by decide, Or.inr ⟨_, _, rfl, rfl, rfl⟩⟩
  · exact (hfailed (-3) _).mpr ⟨by decide, Or.inl ⟨by decide, rfl⟩⟩
  · exact (hfailed 4294967296 _).mpr ⟨by decide, Or.inl ⟨by decide, rfl⟩⟩

end Pass
end SocketCensus
