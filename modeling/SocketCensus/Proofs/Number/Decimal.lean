import SocketCensus.Number.Decimal

/-!
Reading digits against a bound. The reader looks at one digit after the other and stops as soon
as the number is too large; since a number never gets smaller by further digits, it accepts a
word of digits if and only if the whole number is within the bound.
-/
namespace SocketCensus.Decimal

variable {cs : List Char} {bound n : Nat}

theorem exists_digit_of_isDigit {c : Char} (hc : isDigit c = true) : ∃ d, digit? c = some d :=
  Option.isSome_iff_exists.mp hc

theorem le_valueFrom (n : Nat) (cs : List Char) : n ≤ valueFrom n cs := by
  induction cs generalizing n with
  | nil => exact Nat.le_refl n
  | cons c rest ih =>
    have hstep := ih (10 * n + (digit? c).getD 0)
    rw [valueFrom, List.foldl_cons]
    rw [valueFrom] at hstep
    omega

/-- Stopping at the first digit that goes over the bound is exact, however long the word is. -/
theorem readBounded_of_digits (fault : Fault) (hcs : cs.all isDigit = true) (hn : n ≤ bound) :
    readBounded bound fault n cs =
      if valueFrom n cs ≤ bound then .ok (valueFrom n cs) else .error fault := by
  induction cs generalizing n with
  | nil => simp [readBounded, valueFrom, hn]
  | cons c rest ih =>
    rw [List.all_cons, Bool.and_eq_true] at hcs
    obtain ⟨d, hd⟩ := exists_digit_of_isDigit hcs.1
    have hvalue : valueFrom n (c :: rest) = valueFrom (10 * n + d) rest := by
      simp [valueFrom, hd]
    rw [readBounded, hd, hvalue]
    by_cases hstep : 10 * n + d ≤ bound
    · simp [hstep, ih hcs.2 hstep]
    · have hgrown := le_valueFrom (10 * n + d) rest
      have hover : ¬ valueFrom (10 * n + d) rest ≤ bound := by omega
      simp [hstep, hover]

theorem readSigned_of_digits (hne : cs ≠ []) (hcs : cs.all isDigit = true) :
    readSigned cs =
      if value cs ≤ largest then .ok (Int.ofNat (value cs)) else .error .tooLarge := by
  have hread := readBounded_of_digits .tooLarge hcs (Nat.zero_le largest)
  have hunsigned : readSigned cs = (readBounded largest .tooLarge 0 cs).map Int.ofNat := by
    obtain ⟨c, rest, rfl⟩ := List.exists_cons_of_ne_nil hne
    rw [List.all_cons, Bool.and_eq_true] at hcs
    have hplus : c ≠ '+' := by
      rintro rfl
      exact absurd hcs.1 (by decide)
    have hminus : c ≠ '-' := by
      rintro rfl
      exact absurd hcs.1 (by decide)
    unfold readSigned
    split <;> simp_all
  rw [hunsigned, hread, value]
  split <;> rfl

end SocketCensus.Decimal
