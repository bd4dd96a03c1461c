import Mathlib.Algebra.GroupWithZero.Nat
import Mathlib.Data.List.Basic
import SocketCensus.Pass.World

/-!
The entries of a map tell its history. In every life of a map that was empty in the beginning, a
process has an entry if and only if a write of it has succeeded, and the entry holds the traffic
counted since the last such write. The proof goes from a life to its deeds, which alone decide
the map, and from the deeds to the tally kept for a single process.
-/
namespace SocketCensus

namespace Deed

def apply (m : TrafficMap) : Deed → TrafficMap
  | .wrote p (.ok ()) =>
    match Key.ofPid p with
    | .error _ => m
    | .ok key => m.set key Counters.zero
  | .wrote _ (.error _) => m
  | .counted p amount => m.count p amount

/-- What a deed does to the tally of a process: the traffic counted since its last write. -/
def tally (p : Pid) (t : Option Traffic) : Deed → Option Traffic
  | .wrote q (.ok ()) => if p = q then some Traffic.none else t
  | .wrote _ (.error _) => t
  | .counted q amount => if p = q then t.map fun sum => sum.add amount else t

def amount? (p : Pid) : Deed → Option Traffic
  | .wrote _ _ => none
  | .counted q amount => if p = q then some amount else none

/-- A deed keeps the entry of a process equal to its tally. -/
theorem get?_apply {m : TrafficMap} {key : Key} {t : Option Traffic}
    (h : m.get? key = t.map Counters.ofTraffic) (d : Deed) :
    (d.apply m).get? key = (d.tally key.pid t).map Counters.ofTraffic := by
  cases d with
  | counted q amount =>
    simp only [apply, tally, TrafficMap.get?_count, h]
    split
    · cases t with
      | none => rfl
      | some sum => simp [Counters.count_ofTraffic]
    · rfl
  | wrote q result =>
    cases result with
    | error e => exact h
    | ok x =>
      simp only [apply, tally]
      cases hq : Key.ofPid q with
      | error e =>
        have hne : key.pid ≠ q := by
          intro heq
          rw [Key.ofPid_eq_ok_iff_pid.mpr heq] at hq
          contradiction
        simpa [hne] using h
      | ok own =>
        by_cases hkey : own = key
        · subst hkey
          simp [Key.pid_of_ofPid hq, Counters.zero]
        · have hne : key.pid ≠ q := by
            intro heq
            rw [Key.ofPid_eq_ok_iff_pid.mpr heq] at hq
            exact hkey (Except.ok.inj hq).symm
          simpa [hne, TrafficMap.get?_set_other m _ hkey] using h

theorem get?_foldl_apply {m : TrafficMap} {key : Key} {t : Option Traffic}
    (h : m.get? key = t.map Counters.ofTraffic) (deeds : List Deed) :
    (deeds.foldl apply m).get? key = (deeds.foldl (tally key.pid) t).map Counters.ofTraffic := by
  induction deeds generalizing m t with
  | nil => exact h
  | cons d rest ih => exact ih (get?_apply h d)

/-- A tally is begun by a successful write and never given up. -/
theorem isSome_foldl_tally (p : Pid) (t : Option Traffic) (deeds : List Deed) :
    (deeds.foldl (tally p) t).isSome ↔ t.isSome ∨ Deed.wrote p (.ok ()) ∈ deeds := by
  induction deeds generalizing t with
  | nil => simp
  | cons d rest ih =>
    rw [List.foldl_cons, ih]
    cases d with
    | counted q amount =>
      have hcounted : (tally p t (.counted q amount)).isSome = t.isSome := by
        simp only [tally]
        split <;> simp
      simp [hcounted]
    | wrote q result =>
      cases result with
      | error e => simp [tally]
      | ok x =>
        by_cases hq : p = q
        · simp [tally, hq]
        · simp [tally, hq]

/-- Without a further write, a tally adds up what is counted. -/
theorem foldl_tally_of_not_mem (p : Pid) (sum : Traffic) {deeds : List Deed}
    (h : Deed.wrote p (.ok ()) ∉ deeds) :
    deeds.foldl (tally p) (some sum) =
      some ((deeds.filterMap (amount? p)).foldl Traffic.add sum) := by
  induction deeds generalizing sum with
  | nil => rfl
  | cons d rest ih =>
    simp only [List.mem_cons, not_or] at h
    obtain ⟨hd, hrest⟩ := h
    cases d with
    | counted q amount =>
      by_cases hq : p = q
      · simpa [tally, amount?, hq] using ih (sum.add amount) hrest
      · simpa [tally, amount?, hq] using ih sum hrest
    | wrote q result =>
      cases result with
      | error e => simpa [tally, amount?, List.filterMap_cons] using ih sum hrest
      | ok x =>
        have hq : p ≠ q := by
          intro heq
          exact hd (by rw [heq])
        simpa [tally, amount?, hq, List.filterMap_cons] using ih sum hrest

theorem tally_of_other {p : Pid} {d : Deed} (hwrote : d ≠ .wrote p (.ok ()))
    (hcounted : ∀ amount, d ≠ .counted p amount) (t : Option Traffic) : d.tally p t = t := by
  cases d with
  | counted q amount =>
    have hq : p ≠ q := by
      intro heq
      exact hcounted amount (by rw [heq])
    simp [tally, hq]
  | wrote q result =>
    cases result with
    | error e => rfl
    | ok x =>
      have hq : p ≠ q := by
        intro heq
        exact hwrote (by rw [heq])
      simp [tally, hq]

end Deed

/-- Either part of a sum of traffic wraps at `2 ^ 64`, whether in the end or at every step. -/
theorem Traffic.toNat_foldl_add (part : Traffic → UInt64)
    (hpart : ∀ a b, part (add a b) = part a + part b) (t : Traffic) (amounts : List Traffic) :
    (part (amounts.foldl add t)).toNat =
      ((part t).toNat + (amounts.map fun a => (part a).toNat).sum) % 2 ^ 64 := by
  induction amounts generalizing t with
  | nil => exact (Nat.mod_eq_of_lt (part t).toNat_lt).symm
  | cons a rest ih =>
    rw [List.foldl_cons, ih, hpart, UInt64.toNat_add, List.map_cons, List.sum_cons,
      Nat.mod_add_mod, Nat.add_assoc]

theorem Target.commit_eq_apply (t : Target) (m : TrafficMap) (p : Pid) :
    t.commit m p = (Deed.wrote p (t.outcome p)).apply m := by
  cases hkey : Key.ofPid p with
  | error e =>
    have hupdate : t.update? p = .error e := update?_eq_error_iff.mpr hkey
    simp [commit, Deed.apply, hupdate, outcome]
  | ok key =>
    have hupdate : t.update? p = .ok ⟨t.mapPath, key, Counters.zero⟩ :=
      update?_eq_ok_iff.mpr ⟨key, hkey, rfl⟩
    cases houtcome : t.outcome p with
    | error e => simp [commit, Deed.apply, hupdate, houtcome]
    | ok x => simp [commit, Deed.apply, hupdate, houtcome, hkey]

namespace World

theorem map_next {w next : World} {e : Event} (h : w.next? e = some next) :
    next.map = (w.deed? e).toList.foldl Deed.apply w.map := by
  cases e with
  | discovered pass found =>
    cases found with
    | error cause =>
      cases h
      rfl
    | ok ps =>
      cases h
      rfl
  | moved index move =>
    simp only [next?] at h
    cases hu : w.underway[index]? with
    | none =>
      rw [hu] at h
      contradiction
    | some u =>
      rw [hu] at h
      obtain ⟨window, -, rfl⟩ := Option.map_eq_some_iff.mp h
      cases move with
      | start p => rfl
      | finish p =>
        simpa [deed?, hu, Pass.effect] using Target.commit_eq_apply u.pass.target w.map p
  | left index =>
    cases h
    rfl
  | inserted target p =>
    cases h
    exact Target.commit_eq_apply target w.map p
  | counted p amount =>
    cases h
    rfl

theorem map_life {w last : World} {deeds : List Deed} (h : Life w deeds last) :
    last.map = deeds.foldl Deed.apply w.map := by
  induction h with
  | nil w => rfl
  | cons hnext _ ih => rw [ih, map_next hnext, List.foldl_append]

/-- In a life that began with an empty map, every entry is the tally of its process. -/
theorem get?_life {w : World} {deeds : List Deed} (h : Life opening deeds w) (key : Key) :
    w.map.get? key = (deeds.foldl (Deed.tally key.pid) none).map Counters.ofTraffic := by
  rw [map_life h]
  exact Deed.get?_foldl_apply rfl deeds

theorem isSome_get?_life {w : World} {deeds : List Deed} (h : Life opening deeds w) (key : Key) :
    (w.map.get? key).isSome ↔ Deed.wrote key.pid (.ok ()) ∈ deeds := by
  rw [get?_life h, Option.isSome_map, Deed.isSome_foldl_tally]
  simp

/-- After its last successful write, a process has an entry with what was counted since. -/
theorem bytes_get?_life {w : World} {before after : List Deed} {key : Key}
    (h : Life opening (before ++ .wrote key.pid (.ok ()) :: after) w)
    (hlast : Deed.wrote key.pid (.ok ()) ∉ after) :
    ∃ value, w.map.get? key = some value ∧
      value.bytes =
        LittleEndian.encode 8
          (((after.filterMap (Deed.amount? key.pid)).map fun a => a.received.toNat).sum % 2 ^ 64) ++
        LittleEndian.encode 8
          (((after.filterMap (Deed.amount? key.pid)).map fun a => a.sent.toNat).sum % 2 ^ 64) := by
  let amounts := after.filterMap (Deed.amount? key.pid)
  have htally : (before ++ .wrote key.pid (.ok ()) :: after).foldl (Deed.tally key.pid) none =
      some (amounts.foldl Traffic.add Traffic.none) := by
    rw [List.foldl_append, List.foldl_cons]
    simpa [Deed.tally] using Deed.foldl_tally_of_not_mem key.pid Traffic.none hlast
  refine ⟨Counters.ofTraffic (amounts.foldl Traffic.add Traffic.none), ?_, ?_⟩
  · rw [get?_life h, htally]
    rfl
  · have hreceived := Traffic.toNat_foldl_add Traffic.received (fun _ _ => rfl) Traffic.none amounts
    have hsent := Traffic.toNat_foldl_add Traffic.sent (fun _ _ => rfl) Traffic.none amounts
    simp only [Counters.ofTraffic, hreceived, hsent]
    simp [Traffic.none, amounts]

/-- The entries of a map that was empty in the beginning tell its history: which processes have
been written, and what has been counted since. Nothing but a successful write or counted traffic
of a process changes its entry, and nothing takes it away. -/
theorem entries_tell_history {w : World} {deeds : List Deed} (hlife : Life opening deeds w) :
    (∀ entry ∈ w.map.entries, entry.1.bytes.length = 4 ∧ entry.2.bytes.length = 16 ∧
      ∃ p, Key.ofPid p = .ok entry.1 ∧ Deed.wrote p (.ok ()) ∈ deeds) ∧
    (∀ p key, Key.ofPid p = .ok key →
      ((w.map.get? key).isSome ↔ Deed.wrote p (.ok ()) ∈ deeds) ∧
      ∀ before after, deeds = before ++ .wrote p (.ok ()) :: after →
        Deed.wrote p (.ok ()) ∉ after →
        ∃ value, w.map.get? key = some value ∧
          value.bytes =
            LittleEndian.encode 8
              (((after.filterMap (Deed.amount? p)).map fun a => a.received.toNat).sum % 2 ^ 64) ++
            LittleEndian.encode 8
              (((after.filterMap (Deed.amount? p)).map fun a => a.sent.toNat).sum % 2 ^ 64)) ∧
    (∀ more later, Life w more later →
      ∀ key, (w.map.get? key).isSome → (later.map.get? key).isSome) ∧
    ∀ e next, w.next? e = some next → ∀ p key, Key.ofPid p = .ok key →
      w.deed? e ≠ some (.wrote p (.ok ())) →
      (∀ amount, w.deed? e ≠ some (.counted p amount)) →
      next.map.get? key = w.map.get? key := by
  refine ⟨?_, ?_, ?_, ?_⟩
  · intro entry hentry
    have hsome : (w.map.get? entry.1).isSome := Entries.isSome_get?_of_mem hentry
    exact ⟨entry.1.length_bytes, entry.2.length_bytes, entry.1.pid, Key.ofPid_pid entry.1,
      (isSome_get?_life hlife entry.1).mp hsome⟩
  · intro p key hkey
    have hpid : key.pid = p := Key.pid_of_ofPid hkey
    subst hpid
    refine ⟨isSome_get?_life hlife key, ?_⟩
    intro before after hdeeds hlast
    subst hdeeds
    exact bytes_get?_life hlife hlast
  · intro more later hmore key hsome
    rw [map_life hmore, Deed.get?_foldl_apply (get?_life hlife key) more, Option.isSome_map,
      Deed.isSome_foldl_tally]
    rw [get?_life hlife, Option.isSome_map] at hsome
    exact Or.inl hsome
  · intro e next hnext p key hkey hwrote hcounted
    have hpid : key.pid = p := Key.pid_of_ofPid hkey
    subst hpid
    rw [map_next hnext]
    cases hdeed : w.deed? e with
    | none => rfl
    | some d =>
      have htally := Deed.tally_of_other (p := key.pid) (d := d)
        (fun heq => hwrote (by rw [hdeed, heq]))
        (fun amount heq => hcounted amount (by rw [hdeed, heq]))
        (deeds.foldl (Deed.tally key.pid) none)
      have happly := Deed.get?_apply (get?_life hlife key) d
      rw [htally, ← get?_life hlife key] at happly
      exact happly

/-- A pass writes process 7 while traffic is counted: first in vain, then on the new entry. -/
theorem entries_tell_history_of_seven :
    let pass : Pass := ⟨⟨"/map", fun _ _ => .silent (.ok ())⟩, 1⟩
    let key : Key := ⟨[7, 0, 0, 0], rfl⟩
    ∃ w, Life opening [.counted 7 ⟨1, 1⟩, .wrote 7 (pass.target.outcome 7), .counted 7 ⟨300, 6⟩] w ∧
      ∃ value, w.map.get? key = some value ∧
        value.bytes = [44, 1, 0, 0, 0, 0, 0, 0, 6, 0, 0, 0, 0, 0, 0, 0] := by
  intro pass key
  have hlife : Life opening
      [.counted 7 ⟨1, 1⟩, .wrote 7 (pass.target.outcome 7), .counted 7 ⟨300, 6⟩] _ :=
    .cons (e := .discovered pass (.ok [7])) rfl <|
    .cons (e := .moved 0 (.start 7)) rfl <|
    .cons (e := .counted 7 ⟨1, 1⟩) rfl <|
    .cons (e := .moved 0 (.finish 7)) rfl <|
    .cons (e := .counted 7 ⟨300, 6⟩) rfl (.nil _)
  obtain ⟨-, hentries, -, -⟩ := entries_tell_history hlife
  obtain ⟨-, hvalue⟩ := hentries 7 key rfl
  exact ⟨_, hlife, hvalue [.counted 7 ⟨1, 1⟩] [.counted 7 ⟨300, 6⟩] rfl (by simp)⟩

end World
end SocketCensus
