import Mathlib.Algebra.Group.Nat.Defs
import SocketCensus.Proofs.Discovery.Naming
import SocketCensus.Proofs.Number.Decimal

/-!
Three readings of a line that agree. A pattern search goes over the line from match to match,
each the leftmost one after the end of the last; a segment reader cuts the line at its delimiters
and looks at every segment by itself, for its first marker only; the scan reads each character
once. They agree because a match ends at a delimiter, so that none reaches into the next segment
and none is left over in its own.
-/
namespace SocketCensus

namespace Marker

variable {cs xs front after line : List Char} {i start stop : Nat} {tokens : List (List Char)}

/-- A marker begins at a position, and no word goes on there. -/
def OpensAt (cs : List Char) (i : Nat) : Prop := marker <+: cs.drop i ∧ AtBoundary (cs.take i)

instance (cs : List Char) : Decidable (AtBoundary cs) := Option.decidableForallMem cs.getLast?

instance (cs : List Char) (i : Nat) : Decidable (OpensAt cs i) :=
  inferInstanceAs (Decidable (_ ∧ _))

def behind (cs : List Char) (i : Nat) : List Char := cs.drop (i + marker.length)

/-- The tokens that a search for markers captures from a position on: that of the leftmost
marker, which it takes as far as it goes, and those that are captured from there on. -/
inductive Captured (cs : List Char) : Nat → List (List Char) → Prop
  | none {start : Nat} : (∀ i, start ≤ i → ¬ OpensAt cs i) → Captured cs start []
  | next {start i : Nat} {tokens : List (List Char)} :
      start ≤ i → (∀ j, start ≤ j → j < i → ¬ OpensAt cs j) → OpensAt cs i →
      Captured cs (i + marker.length + (token (behind cs i)).length) tokens →
      Captured cs start (token (behind cs i) :: tokens)

/-- A captured token is read if it has digits only, and then with a check at every digit. -/
def readToken? (token : List Char) : Option Pid :=
  if token ≠ [] ∧ token.all Decimal.isDigit = true then (Decimal.readSigned token).toOption
  else none

/-- The pieces of a line between its delimiters. -/
def segments (line : List Char) : List (List Char) := line.splitOnP isDelimiter

def firstMarker? (segment : List Char) : Option Nat :=
  (List.range segment.length).find? fun i => decide (OpensAt segment i)

def segmentToken? (segment : List Char) : Option (List Char) :=
  (firstMarker? segment).map (behind segment)

def segmentPid? (segment : List Char) : Option Pid :=
  match segmentToken? segment with
  | none => none
  | some rest =>
    if rest ≠ [] ∧ rest.all Decimal.isDigit = true ∧ Decimal.value rest ≤ 2 ^ 63 - 1 then
      some (Decimal.value rest)
    else none

theorem readToken?_eq (token : List Char) : readToken? token = tokenPid? token := by
  unfold readToken? tokenPid?
  by_cases hdigits : token ≠ [] ∧ token.all Decimal.isDigit = true
  · rw [if_pos hdigits, Decimal.readSigned_of_digits hdigits.1 hdigits.2]
    by_cases hfits : Decimal.value token ≤ Decimal.largest
    · rw [if_pos hfits, if_pos ⟨hdigits.1, hdigits.2, hfits⟩]
      rfl
    · rw [if_neg hfits, if_neg fun h => hfits h.2.2]
      rfl
  · rw [if_neg hdigits, if_neg fun h => hdigits ⟨h.1, h.2.1⟩]

theorem segmentPid?_eq (segment : List Char) :
    segmentPid? segment = (segmentToken? segment).bind readToken? := by
  unfold segmentPid?
  cases segmentToken? segment with
  | none => rfl
  | some rest => exact (readToken?_eq rest).symm

theorem length_marker : marker.length = 4 := rfl

theorem opensAt_length (h : OpensAt cs i) : i + marker.length ≤ cs.length := by
  have hlength := h.1.length_le
  rw [List.length_drop] at hlength
  have hmarker := length_marker
  omega

theorem opensAt_lt (h : OpensAt cs i) : i < cs.length := by
  have hlength := opensAt_length h
  rw [length_marker] at hlength
  omega

theorem drop_of_opensAt (h : OpensAt cs i) : cs.drop i = marker ++ behind cs i := by
  obtain ⟨tail, htail⟩ := h.1
  rw [behind, ← List.drop_drop, ← htail, List.drop_left]

theorem eq_of_opensAt (h : OpensAt cs i) : cs = cs.take i ++ marker ++ behind cs i := by
  rw [List.append_assoc, ← drop_of_opensAt h, List.take_append_drop]

theorem opensAt_of_eq {before : List Char} (hcs : cs = before ++ marker ++ after)
    (hboundary : AtBoundary before) : OpensAt cs before.length := by
  rw [hcs, List.append_assoc]
  refine ⟨?_, ?_⟩
  · rw [List.drop_left]
    exact List.prefix_append marker after
  · rw [List.take_left]
    exact hboundary

theorem unmarked_take (h : ∀ j, j < i → ¬ OpensAt cs j) : Unmarked (cs.take i) := by
  intro before rest heq hboundary
  have hcs : cs = before ++ marker ++ (rest ++ cs.drop i) := by
    calc
      cs = cs.take i ++ cs.drop i := (List.take_append_drop i cs).symm
      _ = before ++ marker ++ (rest ++ cs.drop i) := by rw [heq, List.append_assoc]
  have hlength := congrArg List.length heq
  simp only [List.length_append, List.length_take, length_marker] at hlength
  exact h before.length (by omega) (opensAt_of_eq hcs hboundary)

theorem segmentToken?_eq_none_iff : segmentToken? cs = none ↔ ∀ i, ¬ OpensAt cs i := by
  simp only [segmentToken?, firstMarker?, Option.map_eq_none_iff, List.find?_range_eq_none,
    Bool.not_eq_true', decide_eq_false_iff_not]
  constructor
  · intro h i hi
    exact h i (opensAt_lt hi) hi
  · intro h i _
    exact h i

theorem segmentToken?_eq_some_iff {tail : List Char} : segmentToken? cs = some tail ↔
    ∃ i, OpensAt cs i ∧ (∀ j, j < i → ¬ OpensAt cs j) ∧ behind cs i = tail := by
  simp only [segmentToken?, firstMarker?, Option.map_eq_some_iff, List.find?_range_eq_some,
    decide_eq_true_eq, List.mem_range, Bool.not_eq_true', decide_eq_false_iff_not]
  constructor
  · intro h
    obtain ⟨i, ⟨hopens, -, hfirst⟩, htail⟩ := h
    exact ⟨i, hopens, hfirst, htail⟩
  · intro h
    obtain ⟨i, hopens, hfirst, htail⟩ := h
    exact ⟨i, ⟨hopens, opensAt_lt hopens, hfirst⟩, htail⟩

/-- Of a text without delimiters the scan reads what the segment reader reads. -/
theorem scan_of_free (hcs : Free cs) : scan .ready cs = (segmentPid? cs).toList := by
  rw [segmentPid?_eq]
  cases htoken : segmentToken? cs with
  | none =>
    have hnone := segmentToken?_eq_none_iff.mp htoken
    have hunmarked : Unmarked cs := by
      intro before rest heq hboundary
      exact hnone before.length (opensAt_of_eq heq hboundary)
    exact scan_eq_nil_of_unmarked hunmarked
  | some tail =>
    obtain ⟨i, hopens, hfirst, htail⟩ := segmentToken?_eq_some_iff.mp htoken
    have heq := eq_of_opensAt hopens
    rw [htail] at heq
    have hfree : Free tail := by
      intro c hc
      exact hcs c (heq ▸ List.mem_append_right _ hc)
    rw [heq, scan_first_marker (unmarked_take hfirst) hopens.2 hfree, Option.bind_some,
      readToken?_eq]

theorem segments_of_free (hxs : Free xs) : segments xs = [xs] := List.splitOnP_eq_singleton hxs

theorem segments_append_delimiter {d : Char} (hxs : Free xs) (hd : isDelimiter d = true)
    (rest : List Char) : segments (xs ++ d :: rest) = xs :: segments rest := by
  rw [segments, List.splitOnP_append_cons xs rest hd, List.splitOnP_eq_singleton hxs]
  rfl

/-- The scan reads a line segment by segment. -/
theorem pidsOfLine_eq_segments (line : List Char) :
    pidsOfLine line = (segments line).filterMap segmentPid? := by
  rw [pidsOfLine]
  induction line using Text.cut_induction isDelimiter with
  | whole xs hxs =>
    rw [segments_of_free hxs, scan_of_free hxs, List.filterMap_cons]
    cases segmentPid? xs <;> rfl
  | cut xs d rest hxs hd ih =>
    rw [segments_append_delimiter hxs hd, scan_append_delimiter hd, scan_of_free hxs, ih,
      List.filterMap_cons]
    cases segmentPid? xs <;> rfl

/-- Behind a delimiter, as at the start of the text, a marker needs nothing else in front. -/
theorem atBoundary_append (hfront : ∀ c ∈ front.getLast?, isDelimiter c = true) :
    AtBoundary (front ++ xs) ↔ AtBoundary xs := by
  cases xs with
  | nil =>
    rw [List.append_nil]
    have hboundary : AtBoundary front := by
      intro c hc
      have hready := after_delimiter (hfront c hc)
      by_contra hword
      simp [Mode.after, hword] at hready
    exact ⟨fun _ => by simp [AtBoundary], fun _ => hboundary⟩
  | cons x rest =>
    simp only [AtBoundary, List.getLast?_append, List.getLast?_cons, Option.some_or]

theorem opensAt_segment (hfront : ∀ c ∈ front.getLast?, isDelimiter c = true)
    (hafter : ∀ c ∈ after.head?, isDelimiter c = true) (hi : i ≤ xs.length) :
    OpensAt (front ++ (xs ++ after)) (front.length + i) ↔ OpensAt xs i := by
  have hletter : ∀ c ∈ after.head?, c ∉ marker := fun c hc => not_mem_marker (hafter c hc)
  have hdrop : (front ++ (xs ++ after)).drop (front.length + i) = xs.drop i ++ after := by
    rw [List.drop_length_add_append, List.drop_append_of_le_length hi]
  have htake : (front ++ (xs ++ after)).take (front.length + i) = front ++ xs.take i := by
    rw [List.take_length_add_append, List.take_append_of_le_length hi]
  rw [OpensAt, OpensAt, hdrop, htake, atBoundary_append hfront]
  by_cases hend : xs.drop i = []
  · have hnone : ¬ marker <+: after := by
      intro hmarker
      obtain ⟨tail, rfl⟩ := hmarker
      exact hletter 'p' rfl List.mem_cons_self
    rw [hend, List.nil_append]
    exact and_congr_left' (iff_of_false hnone (by decide))
  · exact and_congr_left' <| marker_prefix_append hend fun c hc hmem =>
      hletter c hc (List.mem_cons_of_mem 'p' hmem)

namespace Captured

/-- A search may begin further on if there is nothing to be found before. -/
theorem skip (hle : start ≤ stop) (hnone : ∀ j, start ≤ j → j < stop → ¬ OpensAt cs j)
    (h : Captured cs stop tokens) : Captured cs start tokens := by
  cases h with
  | none hrest =>
    refine .none ?_
    intro j hj
    by_cases hstop : j < stop
    · exact hnone j hj hstop
    · exact hrest j (by omega)
  | next hstop hfirst hopens hmore =>
    refine .next (by omega) ?_ hopens hmore
    intro j hj hji
    by_cases hbefore : j < stop
    · exact hnone j hj hbefore
    · exact hfirst j (by omega) hji

theorem unique (h : Captured cs start tokens) {others : List (List Char)}
    (hothers : Captured cs start others) : tokens = others := by
  induction h generalizing others with
  | none hnone =>
    cases hothers with
    | none _ => rfl
    | next hle _ hopens _ => exact absurd hopens (hnone _ hle)
  | @next start i tokens hle hfirst hopens _ ih =>
    cases hothers with
    | none hnone => exact absurd hopens (hnone i hle)
    | @next _ j others hle' hfirst' hopens' hmore' =>
      have hsame : i = j := by
        rcases Nat.lt_trichotomy i j with hlt | heq | hgt
        · exact absurd hopens (hfirst' i hle hlt)
        · exact heq
        · exact absurd hopens' (hfirst j hle' hgt)
      subst hsame
      rw [ih hmore']

/-- A search captures what stands behind the first marker of a segment, and is past the segment
with it. -/
theorem segment (hxs : Free xs) (hfront : ∀ c ∈ front.getLast?, isDelimiter c = true)
    (hafter : ∀ c ∈ after.head?, isDelimiter c = true)
    (hrest : Captured (front ++ (xs ++ after)) (front.length + xs.length) tokens) :
    Captured (front ++ (xs ++ after)) front.length ((segmentToken? xs).toList ++ tokens) := by
  have hplace (j : Nat) (hj : j ≤ xs.length) :
      OpensAt (front ++ (xs ++ after)) (front.length + j) ↔ OpensAt xs j :=
    opensAt_segment hfront hafter hj
  have hbefore {stop : Nat} (hstop : stop ≤ xs.length) (hnone : ∀ j, j < stop → ¬ OpensAt xs j) :
      ∀ j, front.length ≤ j → j < front.length + stop → ¬ OpensAt (front ++ (xs ++ after)) j := by
    intro j hj hjstop
    obtain ⟨k, rfl⟩ := Nat.exists_eq_add_of_le hj
    rw [hplace k (by omega)]
    exact hnone k (by omega)
  cases htoken : segmentToken? xs with
  | none =>
    have hnone := segmentToken?_eq_none_iff.mp htoken
    exact skip (by omega) (hbefore (Nat.le_refl _) fun j _ => hnone j) hrest
  | some tail =>
    obtain ⟨i, hopens, hfirst, htail⟩ := segmentToken?_eq_some_iff.mp htoken
    have hi := opensAt_length hopens
    have hbehind : behind (front ++ (xs ++ after)) (front.length + i) = tail ++ after := by
      rw [behind, Nat.add_assoc, List.drop_length_add_append, List.drop_append_of_le_length hi, ← htail,
        behind]
    have hfree : Free tail := by
      intro c hc
      rw [← htail] at hc
      exact hxs c (List.mem_of_mem_drop hc)
    have hcaptured : token (tail ++ after) = tail := by
      rw [token_append hafter, token_of_free hfree]
    have hlength : tail.length = xs.length - (i + marker.length) := by
      rw [← htail, behind, List.length_drop]
    have hend : front.length + i + marker.length + tail.length = front.length + xs.length := by
      omega
    have hopens' : OpensAt (front ++ (xs ++ after)) (front.length + i) :=
      (hplace i (by omega)).mpr hopens
    have hmore := next (by omega) (hbefore (by omega) hfirst) hopens'
      (by rw [hbehind, hcaptured, hend]; exact hrest)
    rw [hbehind, hcaptured] at hmore
    exact hmore

theorem of_segments (front rest : List Char)
    (hfront : ∀ c ∈ front.getLast?, isDelimiter c = true) :
    Captured (front ++ rest) front.length ((segments rest).filterMap segmentToken?) := by
  induction rest using Text.cut_induction isDelimiter generalizing front with
  | whole xs hxs =>
    have hend : Captured (front ++ (xs ++ [])) (front.length + xs.length) [] := by
      refine .none ?_
      intro i hi hopens
      have hlength := opensAt_lt hopens
      simp only [List.append_nil, List.length_append] at hlength
      omega
    have h := segment hxs hfront (by simp) hend
    rw [List.append_nil, List.append_nil] at h
    rw [segments_of_free hxs]
    cases htoken : segmentToken? xs with
    | none => simpa [htoken] using h
    | some tail => simpa [htoken] using h
  | cut xs d rest hxs hd ih =>
    have hnext := ih (front ++ xs ++ [d]) (by simpa using hd)
    have hafter : ∀ c ∈ (d :: rest).head?, isDelimiter c = true := by simpa using hd
    have htext : front ++ xs ++ [d] ++ rest = front ++ (xs ++ d :: rest) := by simp
    have hlength : (front ++ xs ++ [d]).length = front.length + xs.length + 1 := by simp; omega
    rw [htext, hlength] at hnext
    have hdelimiter : Captured (front ++ (xs ++ d :: rest)) (front.length + xs.length)
        ((segments rest).filterMap segmentToken?) := by
      refine skip (by omega) ?_ hnext
      intro j hj hjstop
      have hj' : j = front.length + xs.length := by omega
      rw [hj', opensAt_segment hfront hafter (Nat.le_refl _)]
      intro hopens
      exact absurd (opensAt_lt hopens) (Nat.lt_irrefl _)
    have h := segment hxs hfront hafter hdelimiter
    rw [segments_append_delimiter hxs hd]
    cases htoken : segmentToken? xs with
    | none => simpa [htoken] using h
    | some tail => simpa [htoken] using h

end Captured

/-- The processes named in some lines are those that their segments name, in order and with
repetitions; and they are what a search captures and a digit by digit reading accepts, where a
line leaves a search only one way to go. -/
theorem pids_eq_segments (lines : List (List Char)) :
    pids lines = lines.flatMap (fun line => (segments line).filterMap segmentPid?) ∧
    ∀ line, ∃ tokens, (∀ others, Captured line 0 others ↔ others = tokens) ∧
      pidsOfLine line = tokens.filterMap readToken? := by
  refine ⟨?_, ?_⟩
  · rw [pids]
    exact congrArg (fun read => lines.flatMap read) (funext pidsOfLine_eq_segments)
  · intro line
    have hcaptured : Captured line 0 ((segments line).filterMap segmentToken?) :=
      Captured.of_segments [] line (by simp)
    refine ⟨(segments line).filterMap segmentToken?, ?_, ?_⟩
    · intro others
      constructor
      · intro h
        exact h.unique hcaptured
      · intro h
        exact h ▸ hcaptured
    · rw [pidsOfLine_eq_segments, List.filterMap_filterMap]
      exact congrArg (fun read => (segments line).filterMap read) (funext segmentPid?_eq)

end Marker
end SocketCensus
