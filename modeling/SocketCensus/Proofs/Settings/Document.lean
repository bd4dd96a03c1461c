import Mathlib.Data.List.Perm.Subperm
import SocketCensus.Settings.Toml.Document

/-!
Keys of a document. A key that is given twice is refused, so that a document which means a table names
each of its entries once.
-/
namespace SocketCensus.Toml

theorem nodup_eraseDups : ∀ keys : List String, keys.eraseDups.Nodup
  | [] => List.nodup_nil
  | key :: rest => by
    have hfewer := List.length_filter_le (fun other => !other == key) rest
    have hkey : key ∉ (rest.filter fun other => !other == key).eraseDups := by
      intro hmem
      have hkept := (List.mem_filter.mp (List.mem_eraseDups.mp hmem)).2
      simp at hkept
    rw [List.eraseDups_cons]
    exact List.nodup_cons.mpr ⟨hkey, nodup_eraseDups _⟩
termination_by keys => keys.length
decreasing_by
  rw [List.length_cons]
  omega

/-- If nothing is lost with the repetitions, there are none. -/
theorem nodup_of_length_eraseDups {keys : List String} (h : keys.eraseDups.length = keys.length) :
    keys.Nodup := by
  have hsubperm : keys.eraseDups.Subperm keys :=
    List.Nodup.subperm (nodup_eraseDups keys) fun _ => List.mem_eraseDups.mp
  exact (List.Subperm.perm_of_length_le hsubperm (Nat.le_of_eq h.symm)).nodup_iff.mp (nodup_eraseDups keys)

variable {fields : List (String × Value)}

theorem Value.nodup_of_ofFields? {given : List (String × Value)}
    (h : ofFields? given = some (.table fields)) : (fields.map Prod.fst).Nodup := by
  unfold ofFields? at h
  dsimp only at h
  split at h
  · cases h
    exact nodup_of_length_eraseDups ‹_›
  · contradiction

theorem Section.nodup_of_tableOf? {depth : Nat} {sections unread : List Section}
    (h : tableOf? depth sections = some (.table fields, unread)) : (fields.map Prod.fst).Nodup := by
  cases depth with
  | zero => contradiction
  | succ depth =>
    rw [tableOf?] at h
    split at h
    · unfold dateOf? at h
      split at h
      · obtain ⟨m, -, hvalue⟩ := Option.map_eq_some_iff.mp h
        cases hvalue
      · contradiction
    · simp only [Option.bind_eq_bind, Option.bind_eq_some_iff, Option.pure_def, Option.some.injEq,
        Prod.mk.injEq] at h
      obtain ⟨own, -, below, -, value, hvalue, rfl, -⟩ := h
      exact Value.nodup_of_ofFields? hvalue

theorem nodup_of_parse? {cs : List Char} (h : parse? cs = some (.table fields)) :
    (fields.map Prod.fst).Nodup := by
  unfold parse? at h
  simp only [Option.bind_eq_bind, Option.bind_eq_some_iff] at h
  obtain ⟨tokens, -, ⟨sections, unread⟩, -, hvalue⟩ := h
  obtain ⟨⟨value, rest⟩, htable, rfl⟩ := Option.map_eq_some_iff.mp hvalue
  exact Section.nodup_of_tableOf? htable

end SocketCensus.Toml
