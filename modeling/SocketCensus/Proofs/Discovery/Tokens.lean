import Mathlib.Data.List.Nodup
import SocketCensus.Proofs.Discovery.Segments

/-!
The numbers that a text writes. A token writes a number if it has digits only, be there ever so many
of them and ever so many zeros in front. A number of up to 63 bits comes through the reading as it is
written, and a larger one does not come through at all, so that none is taken for another.
-/
namespace SocketCensus.Marker

variable {text word line : List Char} {p : Pid} {v : Nat}

/-- A search for markers captures a word in some line of a text. -/
def IsToken (text word : List Char) : Prop :=
  ∃ line ∈ Text.lines text, ∃ tokens, Captured line 0 tokens ∧ word ∈ tokens

/-- Some token of a text is a number, in any spelling. -/
def Writes (text : List Char) (v : Nat) : Prop :=
  ∃ digits, IsToken text digits ∧ digits ≠ [] ∧ digits.all Decimal.isDigit = true ∧
    Decimal.value digits = v

theorem captured_iff {tokens : List (List Char)} :
    Captured line 0 tokens ↔ tokens = (segments line).filterMap segmentToken? := by
  have hown : Captured line 0 ((segments line).filterMap segmentToken?) :=
    Captured.of_segments [] line (by simp)
  constructor
  · intro h
    exact h.unique hown
  · intro h
    exact h ▸ hown

theorem isToken_iff : IsToken text word ↔
    ∃ line ∈ Text.lines text, word ∈ (segments line).filterMap segmentToken? := by
  simp only [IsToken, captured_iff, exists_eq_left]

theorem isToken_of_segment (hline : line ∈ Text.lines text) (hsegment : marker ++ word ∈ segments line) :
    IsToken text word := by
  have hopens : OpensAt (marker ++ word) 0 := ⟨List.prefix_append marker word, by simp [AtBoundary]⟩
  have htoken : segmentToken? (marker ++ word) = some word :=
    segmentToken?_eq_some_iff.mpr ⟨0, hopens, by simp, rfl⟩
  exact isToken_iff.mpr ⟨line, hline, List.mem_filterMap.mpr ⟨_, hsegment, htoken⟩⟩

/-- Reading is exact up to the largest number of 63 bits, and goes no further. -/
theorem readToken?_eq_some_iff : readToken? word = some p ↔
    (word ≠ [] ∧ word.all Decimal.isDigit = true ∧ Decimal.value word < 2 ^ 63) ∧
      p = Decimal.value word := by
  rw [readToken?_eq, tokenPid?_eq_some_iff]
  have hlargest : Decimal.value word ≤ Decimal.largest ↔ Decimal.value word < 2 ^ 63 :=
    Nat.lt_succ_iff.symm
  rw [hlargest]

theorem mem_pidsOfLine_iff : p ∈ pidsOfLine line ↔
    ∃ tokens, Captured line 0 tokens ∧ ∃ word ∈ tokens, readToken? word = some p := by
  simp only [captured_iff, exists_eq_left, pidsOfLine_eq_segments, List.mem_filterMap,
    segmentPid?_eq, Option.bind_eq_some_iff]
  constructor
  · intro h
    obtain ⟨segment, hsegment, word, hword, hread⟩ := h
    exact ⟨word, ⟨segment, hsegment, hword⟩, hread⟩
  · intro h
    obtain ⟨word, ⟨segment, hsegment, hword⟩, hread⟩ := h
    exact ⟨segment, hsegment, word, hword, hread⟩

/-- The processes of a text are the numbers of 63 bits that it writes. -/
theorem mem_pids_lines_iff :
    p ∈ pids (Text.lines text) ↔ ∃ v : Nat, Writes text v ∧ v < 2 ^ 63 ∧ p = v := by
  simp only [pids, List.mem_flatMap, mem_pidsOfLine_iff, readToken?_eq_some_iff]
  constructor
  · intro h
    obtain ⟨line, hline, tokens, htokens, word, hword, ⟨hne, hdigits, hfits⟩, rfl⟩ := h
    exact ⟨_, ⟨word, ⟨line, hline, tokens, htokens, hword⟩, hne, hdigits, rfl⟩, hfits, rfl⟩
  · intro h
    obtain ⟨_, ⟨word, ⟨line, hline, tokens, htokens, hword⟩, hne, hdigits, rfl⟩, hfits, rfl⟩ := h
    exact ⟨line, hline, tokens, htokens, word, hword, ⟨hne, hdigits, hfits⟩, rfl⟩

def numbers (text : List Char) : List Nat :=
  (Pid.distinct (pids (Text.lines text))).map Int.toNat

theorem mem_distinct_iff :
    p ∈ Pid.distinct (pids (Text.lines text)) ↔ ∃ v : Nat, Writes text v ∧ v < 2 ^ 63 ∧ p = v := by
  rw [Pid.mem_distinct, mem_pids_lines_iff]

theorem map_cast_numbers :
    (numbers text).map Nat.cast = Pid.distinct (pids (Text.lines text)) := by
  have hcast : ∀ p ∈ Pid.distinct (pids (Text.lines text)), (Nat.cast ∘ Int.toNat) p = id p := by
    intro p hp
    obtain ⟨v, -, -, rfl⟩ := mem_distinct_iff.mp hp
    rfl
  rw [numbers, List.map_map, List.map_congr_left hcast, List.map_id]

theorem mem_numbers_iff : v ∈ numbers text ↔ Writes text v ∧ v < 2 ^ 63 := by
  simp only [numbers, List.mem_map, mem_distinct_iff]
  constructor
  · intro h
    obtain ⟨_, ⟨w, hwrites, hfits, rfl⟩, rfl⟩ := h
    exact ⟨hwrites, hfits⟩
  · intro h
    exact ⟨v, ⟨v, h.1, h.2, rfl⟩, rfl⟩

theorem nodup_numbers (text : List Char) : (numbers text).Nodup := by
  refine List.Nodup.of_map (Nat.cast : Nat → Pid) ?_
  rw [map_cast_numbers]
  exact Pid.nodup_distinct _

end SocketCensus.Marker
