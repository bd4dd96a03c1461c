import Mathlib.Algebra.Group.Int.Defs
import Mathlib.Data.List.Basic
import SocketCensus.Proofs.Number.Decimal

/-!
The decimal text of an integer. It has digits only, after a hyphen if the integer is negative, and no
zero in front; reading it gives the integer back wherever 64 bits with a sign have room for it.
-/
namespace SocketCensus.Decimal

variable {c : Char} {n : Int}

theorem digit?_of_isDigit (hc : c.isDigit = true) : digit? c = some (c.toNat - '0'.toNat) := by
  simp only [Char.isDigit, Bool.and_eq_true, decide_eq_true_eq] at hc
  exact if_pos hc

theorem isDigit_of_mem_toDigits {m : Nat} (hc : c ∈ Nat.toDigits 10 m) : c.isDigit = true :=
  Nat.isDigit_of_mem_toDigits (by decide) (by decide) hc

theorem all_isDigit_toDigits (m : Nat) : (Nat.toDigits 10 m).all isDigit = true := by
  rw [List.all_eq_true]
  intro c hc
  rw [isDigit, digit?_of_isDigit (isDigit_of_mem_toDigits hc)]
  rfl

/-- Adding up the digits gives the number back, whatever else a reader takes for a digit. -/
theorem foldl_toDigits {read : Char → Nat}
    (hread : ∀ c, c.isDigit = true → read c = c.toNat - '0'.toNat) (m : Nat) :
    (Nat.toDigits 10 m).foldl (fun n c => 10 * n + read c) 0 = m := by
  calc
    (Nat.toDigits 10 m).foldl (fun n c => 10 * n + read c) 0 =
        (Nat.toDigits 10 m).foldl (fun n c => 10 * n + (c.toNat - '0'.toNat)) 0 :=
      List.foldl_ext _ _ _ fun n c hc => by rw [hread c (isDigit_of_mem_toDigits hc)]
    _ = Nat.ofDigitChars 10 (Nat.toDigits 10 m) 0 := rfl
    _ = m := Nat.ofDigitChars_ten_toDigits

theorem value_toDigits (m : Nat) : value (Nat.toDigits 10 m) = m :=
  foldl_toDigits (fun c hc => by rw [digit?_of_isDigit hc, Option.getD_some]) m

theorem toDigits_inj {m k : Nat} (h : Nat.toDigits 10 m = Nat.toDigits 10 k) : m = k := by
  rw [← value_toDigits m, h, value_toDigits]

/-- Only the zero itself begins with a zero. -/
theorem toDigits_zero_cons {m : Nat} {rest : List Char} (h : Nat.toDigits 10 m = '0' :: rest) :
    m = 0 ∧ rest = [] := by
  induction m using Nat.strongRecOn generalizing rest with
  | ind m ih =>
    rw [Nat.toDigits_eq_if (by decide)] at h
    split at h
    · rename_i hm
      obtain ⟨hfirst, hrest⟩ := List.cons.inj h
      have hvalue := Nat.toNat_digitChar_of_lt_ten hm
      rw [hfirst] at hvalue
      exact ⟨by simpa using hvalue, hrest.symm⟩
    · rename_i hm
      have hne : Nat.toDigits 10 (m / 10) ≠ [] := Nat.toDigits_ne_nil
      obtain ⟨first, others, hfront⟩ := List.exists_cons_of_ne_nil hne
      rw [hfront, List.cons_append] at h
      obtain ⟨rfl, -⟩ := List.cons.inj h
      obtain ⟨hzero, -⟩ := ih (m / 10) (by omega) hfront
      omega

/-- The digits of an integer, with a hyphen in front of those of a negative one. -/
theorem toList_toString (n : Int) : (toString n).toList =
    if 0 ≤ n then Nat.toDigits 10 n.toNat else '-' :: Nat.toDigits 10 (-n).toNat := by
  rw [Int.toString_eq_repr, Int.repr_eq_if]
  split
  · exact Nat.toList_repr
  · simp

theorem toList_toString_inj {m : Int} (h : (toString m).toList = (toString n).toList) : m = n := by
  have hhyphen (k : Nat) (rest : List Char) : Nat.toDigits 10 k ≠ '-' :: rest := by
    intro hdigits
    exact absurd (isDigit_of_mem_toDigits (hdigits ▸ List.mem_cons_self)) (by decide)
  rw [toList_toString, toList_toString] at h
  split at h <;> split at h
  · have hdigits := toDigits_inj h
    omega
  · exact absurd h (hhyphen _ _)
  · exact absurd h.symm (hhyphen _ _)
  · have hdigits := toDigits_inj (List.cons.inj h).2
    omega

theorem toList_toString_ne_nil (n : Int) : (toString n).toList ≠ [] := by
  rw [toList_toString]
  split
  · exact Nat.toDigits_ne_nil
  · exact List.cons_ne_nil _ _

theorem isDigit_of_mem_tail_toString (hc : c ∈ (toString n).toList.tail) : c.isDigit = true := by
  rw [toList_toString] at hc
  split at hc
  · exact isDigit_of_mem_toDigits (List.mem_of_mem_tail hc)
  · exact isDigit_of_mem_toDigits hc

theorem hyphen_or_isDigit_of_mem_toString (hc : c ∈ (toString n).toList) :
    c = '-' ∨ c.isDigit = true := by
  rw [toList_toString] at hc
  split at hc
  · exact .inr (isDigit_of_mem_toDigits hc)
  · exact (List.mem_cons.mp hc).imp_right isDigit_of_mem_toDigits

theorem not_mem_toString (hc : c ≠ '-') (hdigit : c.isDigit = false) : c ∉ (toString n).toList := by
  intro hmem
  rcases hyphen_or_isDigit_of_mem_toString hmem with h | h
  · exact hc h
  · rw [hdigit] at h
    contradiction

theorem not_mem_toString_nat {m : Nat} (hdigit : c.isDigit = false) : c ∉ (toString m).toList := by
  intro hmem
  have hc : c.isDigit = true := isDigit_of_mem_toDigits (Nat.toList_repr ▸ hmem)
  rw [hdigit] at hc
  contradiction

/-- The text of an integer is no word with another character than a hyphen and digits. -/
theorem toList_toString_ne {word : List Char}
    (hword : word.any (fun c => c != '-' && !c.isDigit) = true) : (toString n).toList ≠ word := by
  intro heq
  obtain ⟨c, hc, hother⟩ := List.any_eq_true.mp hword
  obtain ⟨hhyphen, hdigit⟩ : c ≠ '-' ∧ c.isDigit = false := by simpa using hother
  exact not_mem_toString hhyphen hdigit (heq ▸ hc)

/-- After a hyphen a word of digits is read as a negative number, which may be larger by one. -/
theorem readSigned_hyphen {digits : List Char} (hne : digits ≠ []) (hdigits : digits.all isDigit = true) :
    readSigned ('-' :: digits) =
      if value digits ≤ largest + 1 then .ok (-Int.ofNat (value digits)) else .error .tooSmall := by
  have hread := readBounded_of_digits .tooSmall hdigits (Nat.zero_le (largest + 1))
  have hhyphen : readSigned ('-' :: digits) =
      (readBounded (largest + 1) .tooSmall 0 digits).map fun m => -Int.ofNat m := by
    obtain ⟨c, rest, rfl⟩ := List.exists_cons_of_ne_nil hne
    rfl
  rw [hhyphen, hread, value]
  split <;> rfl

theorem readSigned_toString (hlow : -2 ^ 63 ≤ n) (hhigh : n < 2 ^ 63) :
    readSigned (toString n).toList = .ok n := by
  rw [toList_toString]
  split
  · rename_i hn
    have hfits : n.toNat ≤ largest := by
      show n.toNat ≤ 9223372036854775807
      omega
    have hvalue : Int.ofNat n.toNat = n := Int.toNat_of_nonneg hn
    rw [readSigned_of_digits Nat.toDigits_ne_nil (all_isDigit_toDigits _), value_toDigits, if_pos hfits,
      hvalue]
  · rename_i hn
    have hfits : (-n).toNat ≤ largest + 1 := by
      show (-n).toNat ≤ 9223372036854775808
      omega
    have hvalue : -Int.ofNat (-n).toNat = n := by
      show -((-n).toNat : Int) = n
      omega
    rw [readSigned_hyphen Nat.toDigits_ne_nil (all_isDigit_toDigits _), value_toDigits, if_pos hfits,
      hvalue]

end SocketCensus.Decimal
