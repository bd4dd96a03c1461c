import Mathlib.Data.Set.List
import SocketCensus.Bytes.Hex

/-!
Hexadecimal words tell their bytes: no two bytes are written alike, and every word of two digits is
the word of a byte. A text of words is cut into its words at the spaces, as no word holds one.
-/
namespace SocketCensus.Hex

def IsDigit (c : Char) : Prop := ('0' ≤ c ∧ c ≤ '9') ∨ ('a' ≤ c ∧ c ≤ 'f')

def IsWord (w : String) : Prop :=
  ∃ high low, IsDigit high ∧ IsDigit low ∧ w = String.ofList [high, low]

theorem eq_of_digit_eq {m n : Nat} (hm : m < 16) (hn : n < 16) (h : digit m = digit n) : m = n := by
  have hall : ∀ m < 16, ∀ n < 16, digit m = digit n → m = n := by decide
  exact hall m hm n hn h

theorem eq_of_word_eq {a b : UInt8} (h : word a = word b) : a = b := by
  have ha : a.toNat < 256 := a.toNat_lt
  have hb : b.toNat < 256 := b.toNat_lt
  have hdigits := String.ofList_injective h
  simp only [List.cons.injEq, and_true] at hdigits
  have hhigh := eq_of_digit_eq (by omega) (by omega) hdigits.1
  have hlow := eq_of_digit_eq (Nat.mod_lt _ (by decide)) (Nat.mod_lt _ (by decide)) hdigits.2
  exact UInt8.toNat_inj.mp (by omega)

theorem eq_of_words_eq {bytes others : List UInt8} (h : words bytes = words others) :
    bytes = others :=
  (List.map_inj_right fun _ _ => eq_of_word_eq).mp h

theorem isDigit_iff {c : Char} : IsDigit c ↔ ∃ n < 16, digit n = c := by
  constructor
  · intro hc
    have hall : ∀ v < 103, (48 ≤ v ∧ v ≤ 57) ∨ (97 ≤ v ∧ v ≤ 102) →
        ∃ n < 16, digit n = Char.ofNat v := by
      decide
    have hrange : (48 ≤ c.toNat ∧ c.toNat ≤ 57) ∨ (97 ≤ c.toNat ∧ c.toNat ≤ 102) := hc
    obtain ⟨n, hn, hdigit⟩ := hall c.toNat (by omega) hrange
    exact ⟨n, hn, hdigit.trans (Char.ofNat_toNat c)⟩
  · intro h
    obtain ⟨n, hn, rfl⟩ := h
    have hall : ∀ n < 16, ('0' ≤ digit n ∧ digit n ≤ '9') ∨ ('a' ≤ digit n ∧ digit n ≤ 'f') := by
      decide
    exact hall n hn

theorem exists_word_iff {w : String} : (∃ b, word b = w) ↔ IsWord w := by
  constructor
  · intro h
    obtain ⟨b, rfl⟩ := h
    have hb : b.toNat < 256 := b.toNat_lt
    exact ⟨_, _, isDigit_iff.mpr ⟨b.toNat / 16, by omega, rfl⟩,
      isDigit_iff.mpr ⟨b.toNat % 16, by omega, rfl⟩, rfl⟩
  · intro h
    obtain ⟨high, low, hhigh, hlow, rfl⟩ := h
    obtain ⟨m, hm, rfl⟩ := isDigit_iff.mp hhigh
    obtain ⟨n, hn, rfl⟩ := isDigit_iff.mp hlow
    have hbyte : (UInt8.ofNat (16 * m + n)).toNat = 16 * m + n :=
      UInt8.toNat_ofNat_of_lt' (show 16 * m + n < 256 by omega)
    refine ⟨UInt8.ofNat (16 * m + n), ?_⟩
    rw [word, hbyte, show (16 * m + n) / 16 = m by omega, show (16 * m + n) % 16 = n by omega]

theorem exists_words_iff {ws : List String} : (∃ bytes, words bytes = ws) ↔ ∀ w ∈ ws, IsWord w := by
  have hrange : ws ∈ Set.range (List.map word) ↔ ∀ w ∈ ws, w ∈ Set.range word := by
    rw [Set.range_list_map]
    rfl
  simpa only [words, Set.mem_range, exists_word_iff] using hrange

theorem words_ne_nil {bytes : List UInt8} (h : bytes ≠ []) : words bytes ≠ [] := by
  simpa [words] using h

theorem length_word (b : UInt8) : (word b).length = 2 := by simp [word]

theorem space_not_mem_word (b : UInt8) : ' ' ∉ (word b).toList := by
  have hall : ∀ n < 16, ' ' ≠ digit n := by decide
  have hb : b.toNat < 256 := b.toNat_lt
  simp [word, hall (b.toNat / 16) (by omega), hall (b.toNat % 16) (by omega)]

/-- Cutting a text at its spaces gives the words back; the empty text is one empty piece. -/
theorem split_text (bytes : List UInt8) :
    ((text bytes).split ' ').toList.map (fun piece => piece.copy) =
      if bytes = [] then [""] else words bytes := by
  have hwords : ∀ w ∈ words bytes, ' ' ∉ w.toList := by
    intro w hw
    obtain ⟨b, -, rfl⟩ := List.mem_map.mp hw
    exact space_not_mem_word b
  have htext : text bytes = (String.singleton ' ').intercalate (words bytes) := rfl
  rw [htext, String.toList_split_intercalate hwords]
  simp [words]

theorem eq_of_text_eq {bytes others : List UInt8} (h : text bytes = text others) : bytes = others := by
  have hpieces : (if bytes = [] then [""] else words bytes) =
      if others = [] then [""] else words others := by
    rw [← split_text, ← split_text, h]
  have hne (b : UInt8) : "" ≠ word b := by
    intro hempty
    have hlength := length_word b
    rw [← hempty] at hlength
    contradiction
  cases bytes with
  | nil =>
    cases others with
    | nil => rfl
    | cons b rest => exact absurd (List.cons.inj hpieces).1 (hne b)
  | cons b rest =>
    cases others with
    | nil => exact absurd (List.cons.inj hpieces).1.symm (hne b)
    | cons c more => exact eq_of_words_eq hpieces

end SocketCensus.Hex
