import Mathlib.Data.List.Perm.Basic
import SocketCensus.Entry.TrafficMap

/-!
A map is what it holds under each key. The entries stand in the order of their keys, no two of
them under one key, so that their list can be told from the values found under the keys.
-/
namespace SocketCensus

namespace Entries

variable {entries : List (Key × Counters)}

theorem nodup_of_pairwise (h : entries.Pairwise Before) : entries.Nodup := by
  refine h.imp ?_
  intro a b hab heq
  rw [heq] at hab
  exact Nat.lt_irrefl _ hab

/-- What is listed is found, since no other entry has its key. -/
theorem get?_eq_some_iff (h : entries.Pairwise Before) {key : Key} {value : Counters} :
    get? entries key = some value ↔ (key, value) ∈ entries := by
  induction entries with
  | nil => simp [get?]
  | cons first rest ih =>
    obtain ⟨k, v⟩ := first
    obtain ⟨hfirst, hrest⟩ := List.pairwise_cons.mp h
    by_cases hk : k = key
    · subst hk
      have hother : (k, value) ∉ rest := fun hmem =>
        Nat.lt_irrefl k.rank (hfirst (k, value) hmem)
      simp [get?, hother, eq_comm]
    · have hne : ¬ key = k := fun heq => hk heq.symm
      simp [get?, hk, hne, ih hrest]

theorem eq_of_mem_iff {others : List (Key × Counters)} (h : entries.Pairwise Before)
    (hothers : others.Pairwise Before) (hmem : ∀ e, e ∈ entries ↔ e ∈ others) :
    entries = others := by
  have hperm : entries.Perm others :=
    (List.perm_ext_iff_of_nodup (nodup_of_pairwise h) (nodup_of_pairwise hothers)).mpr hmem
  exact List.Perm.eq_of_pairwise (fun a b _ _ hab hba => absurd hba (Nat.lt_asymm hab)) h hothers
    hperm

end Entries

namespace TrafficMap

theorem eq_of_get?_eq {m other : TrafficMap} (h : ∀ key, m.get? key = other.get? key) :
    m = other := by
  have hentries : m.entries = other.entries := by
    refine Entries.eq_of_mem_iff m.ordered other.ordered ?_
    intro e
    rw [← Entries.get?_eq_some_iff m.ordered, ← Entries.get?_eq_some_iff other.ordered]
    exact iff_of_eq (congrArg (fun found => found = some e.2) (h e.1))
  cases m
  cases other
  simpa using hentries

end TrafficMap
end SocketCensus
