import SocketCensus.Entry.Counters
import SocketCensus.Entry.Key

/-!
The traffic map: at most one value under each key, listed in the order of the keys. Writing an
entry replaces what was there; counting changes an entry only if there is one.
-/
namespace SocketCensus

namespace Entries

def Before (a b : Key × Counters) : Prop := a.1.rank < b.1.rank

def get? : List (Key × Counters) → Key → Option Counters
  | [], _ => none
  | (k, v) :: rest, key => if k = key then some v else get? rest key

def set : List (Key × Counters) → Key → Counters → List (Key × Counters)
  | [], key, value => [(key, value)]
  | (k, v) :: rest, key, value =>
    if k = key then (key, value) :: rest
    else if key.rank < k.rank then (key, value) :: (k, v) :: rest
    else (k, v) :: set rest key value

theorem get?_set_self (entries : List (Key × Counters)) (key : Key) (value : Counters) :
    get? (set entries key value) key = some value := by
  induction entries with
  | nil => simp [set, get?]
  | cons entry rest ih =>
    simp only [set]
    split
    · simp [get?]
    · split
      · simp [get?]
      · simp [get?, *]

theorem get?_set_of_ne (entries : List (Key × Counters)) {key other : Key} (value : Counters)
    (h : key ≠ other) : get? (set entries key value) other = get? entries other := by
  induction entries with
  | nil => simp [set, get?, h]
  | cons entry rest ih =>
    simp only [set]
    split
    · rename_i heq
      simp [get?, heq, h]
    · split
      · simp [get?, h]
      · simp [get?, ih]

theorem isSome_get?_of_mem {entries : List (Key × Counters)} {entry : Key × Counters}
    (h : entry ∈ entries) : (get? entries entry.1).isSome := by
  induction entries with
  | nil => simp at h
  | cons first rest ih =>
    simp only [get?]
    split
    · rfl
    · rename_i hne
      rcases List.mem_cons.mp h with rfl | h
      · exact absurd rfl hne
      · exact ih h

theorem mem_set {entries : List (Key × Counters)} {key : Key} {value : Counters}
    {entry : Key × Counters} (h : entry ∈ set entries key value) :
    entry = (key, value) ∨ entry ∈ entries := by
  induction entries with
  | nil => simpa [set] using h
  | cons first rest ih =>
    simp only [set] at h
    split at h
    · rcases List.mem_cons.mp h with h | h
      · exact .inl h
      · exact .inr (List.mem_cons_of_mem _ h)
    · split at h
      · exact List.mem_cons.mp h
      · rcases List.mem_cons.mp h with h | h
        · exact .inr (h ▸ List.mem_cons_self)
        · rcases ih h with h | h
          · exact .inl h
          · exact .inr (List.mem_cons_of_mem _ h)

theorem pairwise_set {entries : List (Key × Counters)} (key : Key) (value : Counters)
    (h : entries.Pairwise Before) : (set entries key value).Pairwise Before := by
  induction entries with
  | nil => simp [set]
  | cons first rest ih =>
    obtain ⟨hfirst, hrest⟩ := List.pairwise_cons.mp h
    simp only [set]
    split
    · rename_i heq
      exact List.pairwise_cons.mpr ⟨fun e he => by simpa [Before, ← heq] using hfirst e he, hrest⟩
    · split
      · rename_i hlt
        refine List.pairwise_cons.mpr ⟨fun e he => ?_, h⟩
        rcases List.mem_cons.mp he with rfl | he
        · exact hlt
        · exact Nat.lt_trans hlt (hfirst e he)
      · rename_i hne hlt
        refine List.pairwise_cons.mpr ⟨fun e he => ?_, ih hrest⟩
        rcases mem_set he with rfl | he
        · exact Nat.lt_of_le_of_ne (Nat.not_lt.mp hlt) fun heq => hne (Key.eq_of_rank_eq heq)
        · exact hfirst e he

end Entries

/-- Entries in ascending order of their keys. -/
structure TrafficMap where
  entries : List (Key × Counters)
  ordered : entries.Pairwise Entries.Before

namespace TrafficMap

def empty : TrafficMap := ⟨[], .nil⟩

def get? (m : TrafficMap) (key : Key) : Option Counters := Entries.get? m.entries key

def set (m : TrafficMap) (key : Key) (value : Counters) : TrafficMap :=
  ⟨Entries.set m.entries key value, Entries.pairwise_set key value m.ordered⟩

def count (m : TrafficMap) (p : Pid) (t : Traffic) : TrafficMap :=
  match Key.ofPid p with
  | .error _ => m
  | .ok key =>
    match m.get? key with
    | none => m
    | some value => m.set key (value.count t)

def counts (m : TrafficMap) (p : Pid) : Bool :=
  match Key.ofPid p with
  | .error _ => false
  | .ok key => (m.get? key).isSome

@[simp] theorem get?_set_same (m : TrafficMap) (key : Key) (value : Counters) :
    (m.set key value).get? key = some value := Entries.get?_set_self m.entries key value

theorem get?_set_other (m : TrafficMap) {key other : Key} (value : Counters)
    (h : key ≠ other) : (m.set key value).get? other = m.get? other :=
  Entries.get?_set_of_ne m.entries value h

/-- Counting changes the entry of the one process only, and makes none. -/
theorem get?_count (m : TrafficMap) (p : Pid) (amount : Traffic) (key : Key) :
    (m.count p amount).get? key =
      if key.pid = p then (m.get? key).map fun value => value.count amount else m.get? key := by
  unfold count
  cases hpid : Key.ofPid p with
  | error e =>
    have hne : key.pid ≠ p := by
      intro h
      rw [Key.ofPid_eq_ok_iff_pid.mpr h] at hpid
      contradiction
    simp [hne]
  | ok own =>
    by_cases hkey : own = key
    · subst hkey
      have hown : own.pid = p := Key.pid_of_ofPid hpid
      cases hvalue : m.get? own with
      | none => simp [hvalue]
      | some value => simp [hvalue, hown]
    · have hne : key.pid ≠ p := by
        intro h
        rw [Key.ofPid_eq_ok_iff_pid.mpr h] at hpid
        exact hkey (Except.ok.inj hpid).symm
      cases hvalue : m.get? own with
      | none => simp [hvalue, hne]
      | some value => simp [hvalue, get?_set_other m _ hkey, hne]

end TrafficMap
end SocketCensus
