/-!
Sets of characters given by closed ranges of code points. A class of characters is
a table of ranges together with a membership test that walks the table.
-/
namespace SocketCensus.Text

/-- The characters whose code points lie between two bounds, both included. -/
structure CodeRange where
  first : Nat
  last : Nat

def CodeRange.holds (r : CodeRange) (c : Char) : Bool :=
  r.first ≤ c.toNat && c.toNat ≤ r.last

def inTable (table : List (Nat × Nat)) (c : Char) : Bool :=
  table.any fun r => CodeRange.holds ⟨r.1, r.2⟩ c

theorem inTable_eq_true_iff (table : List (Nat × Nat)) (c : Char) :
    inTable table c = true ↔ ∃ r ∈ table, r.1 ≤ c.toNat ∧ c.toNat ≤ r.2 := by
  simp [inTable, CodeRange.holds]

end SocketCensus.Text
