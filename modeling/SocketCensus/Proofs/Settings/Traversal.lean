import SocketCensus.Settings.Traversal

/-!
Things in the order of their ranks. They are the same things as before, and those of a kind are in the
order in which they would be without the others.
-/
namespace SocketCensus.Settings

variable {α : Type} {rank : α → Nat} {a : α} {things : List α} {p : α → Bool}

theorem insertBy_perm (rank : α → Nat) (a : α) (things : List α) :
    (insertBy rank a things).Perm (a :: things) := by
  induction things with
  | nil => exact .refl _
  | cons b rest ih =>
    rw [insertBy]
    split
    · exact .refl _
    · exact (ih.cons b).trans (.swap a b rest)

theorem arrange_perm (rank : α → Nat) (things : List α) : (arrange rank things).Perm things := by
  induction things with
  | nil => exact .refl _
  | cons a rest ih => exact (insertBy_perm rank a _).trans (ih.cons a)

theorem insertBy_of_le (h : ∀ b ∈ things, rank a ≤ rank b) : insertBy rank a things = a :: things := by
  cases things with
  | nil => rfl
  | cons b rest => rw [insertBy, if_pos (h b List.mem_cons_self)]

def Ranked (rank : α → Nat) (things : List α) : Prop := things.Pairwise fun a b => rank a ≤ rank b

theorem Ranked.insertBy (h : Ranked rank things) (a : α) : Ranked rank (insertBy rank a things) := by
  induction things with
  | nil => exact List.pairwise_singleton _ a
  | cons b rest ih =>
    obtain ⟨hfirst, hrest⟩ := List.pairwise_cons.mp h
    rw [Settings.insertBy]
    split
    · rename_i hle
      refine List.pairwise_cons.mpr ⟨?_, h⟩
      intro c hc
      rcases List.mem_cons.mp hc with rfl | hc
      · exact hle
      · exact Nat.le_trans hle (hfirst c hc)
    · rename_i hgt
      refine List.pairwise_cons.mpr ⟨?_, ih hrest⟩
      intro c hc
      rcases List.mem_cons.mp ((insertBy_perm rank a rest).mem_iff.mp hc) with rfl | hc
      · omega
      · exact hfirst c hc

theorem ranked_arrange (rank : α → Nat) (things : List α) : Ranked rank (arrange rank things) := by
  induction things with
  | nil => exact List.Pairwise.nil
  | cons a rest ih => exact ih.insertBy a

theorem filter_insertBy_of_neg (h : p a = false) (things : List α) :
    (insertBy rank a things).filter p = things.filter p := by
  induction things with
  | nil => simp [insertBy, h]
  | cons b rest ih =>
    rw [insertBy]
    split
    · simp [h]
    · simp [List.filter_cons, ih]

theorem Ranked.filter_insertBy (hranked : Ranked rank things) (h : p a = true) :
    (Settings.insertBy rank a things).filter p = Settings.insertBy rank a (things.filter p) := by
  induction things with
  | nil => simp [Settings.insertBy, h]
  | cons b rest ih =>
    obtain ⟨hfirst, hrest⟩ := List.pairwise_cons.mp hranked
    rw [Settings.insertBy]
    split
    · rename_i hle
      have hall : ∀ c ∈ (b :: rest).filter p, rank a ≤ rank c := by
        intro c hc
        rcases List.mem_cons.mp (List.mem_filter.mp hc).1 with rfl | hc
        · exact hle
        · exact Nat.le_trans hle (hfirst c hc)
      rw [insertBy_of_le hall, List.filter_cons_of_pos h]
    · rename_i hgt
      by_cases hb : p b
      · simp [hb, ih hrest, Settings.insertBy, hgt]
      · simp [hb, ih hrest]

/-- Things of a kind are arranged by themselves. -/
theorem filter_arrange (rank : α → Nat) (p : α → Bool) (things : List α) :
    (arrange rank things).filter p = arrange rank (things.filter p) := by
  induction things with
  | nil => rfl
  | cons a rest ih =>
    rw [arrange]
    by_cases ha : p a
    · rw [(ranked_arrange rank rest).filter_insertBy ha, ih, List.filter_cons_of_pos ha, arrange]
    · rw [filter_insertBy_of_neg (by simpa using ha), ih, List.filter_cons_of_neg ha]

end SocketCensus.Settings
