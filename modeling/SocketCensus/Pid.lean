/-!
Process identifiers and finite sets of them. A set is kept as its elements in ascending order,
so two sets with the same elements are equal.
-/
namespace SocketCensus

abbrev Pid := Int

namespace Pid

def insert (p : Pid) : List Pid → List Pid
  | [] => [p]
  | q :: rest => if p < q then p :: q :: rest else if p = q then q :: rest else q :: insert p rest

/-- The distinct identifiers of a list, in ascending order. -/
def distinct (ps : List Pid) : List Pid := ps.foldr insert []

theorem mem_insert {p q : Pid} {ps : List Pid} : q ∈ insert p ps ↔ q = p ∨ q ∈ ps := by
  induction ps with
  | nil => simp [insert]
  | cons r rest ih =>
    simp only [insert]
    split
    · simp
    · split
      · simp [*]
      · simp only [List.mem_cons, ih]
        grind

theorem mem_distinct {q : Pid} {ps : List Pid} : q ∈ distinct ps ↔ q ∈ ps := by
  induction ps with
  | nil => simp [distinct]
  | cons p rest ih => simp [distinct, mem_insert, ← ih]

theorem pairwise_insert {p : Pid} {ps : List Pid} (h : ps.Pairwise (· < ·)) :
    (insert p ps).Pairwise (· < ·) := by
  induction ps with
  | nil => simp [insert]
  | cons r rest ih =>
    simp only [List.pairwise_cons] at h
    simp only [insert]
    split
    · simp only [List.pairwise_cons, List.mem_cons]
      grind
    · split
      · simpa using h
      · simp only [List.pairwise_cons, mem_insert]
        grind

theorem pairwise_distinct (ps : List Pid) : (distinct ps).Pairwise (· < ·) := by
  induction ps with
  | nil => simp [distinct]
  | cons p rest ih => exact pairwise_insert ih

theorem nodup_distinct (ps : List Pid) : (distinct ps).Nodup :=
  (pairwise_distinct ps).imp fun h => Int.ne_of_lt h

end Pid
end SocketCensus
