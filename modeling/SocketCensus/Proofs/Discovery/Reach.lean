import Mathlib.Data.List.Range
import SocketCensus.Proofs.Discovery.Segments

/-!
How far a marker reaches. A marker takes all that follows it for its token, up to the next delimiter,
and no other marker is looked for in there; beyond the delimiter nothing of it is left. So the markers
that are read are those that no earlier one reaches beyond.
-/
namespace SocketCensus.Marker

variable {cs xs front after line : List Char} {i j : Nat} {p : Pid}

/-- The marker at a position gives a process: its token is a number of 63 bits. -/
structure Gives (line : List Char) (i : Nat) (p : Pid) : Prop where
  opens : OpensAt line i
  digits_ne : token (behind line i) ≠ []
  digits_all : (token (behind line i)).all Decimal.isDigit = true
  fits : Decimal.value (token (behind line i)) ≤ 2 ^ 63 - 1
  pid_eq : p = Decimal.value (token (behind line i))

/-- The marker at `j` goes on beyond `i`, with its token. -/
def ReachesBeyond (line : List Char) (j i : Nat) : Prop :=
  OpensAt line j ∧ i < j + marker.length + (token (behind line j)).length

def Hidden (line : List Char) (i : Nat) : Prop := ∃ j < i, ReachesBeyond line j i

instance (line : List Char) (j i : Nat) : Decidable (ReachesBeyond line j i) :=
  inferInstanceAs (Decidable (_ ∧ _))

instance (line : List Char) (i : Nat) : Decidable (Hidden line i) :=
  inferInstanceAs (Decidable (∃ j < i, ReachesBeyond line j i))

def readAt? (line : List Char) (i : Nat) : Option Pid :=
  if OpensAt line i ∧ ¬ Hidden line i then tokenPid? (token (behind line i)) else none

def readings (line : List Char) : List Pid := (List.range line.length).filterMap (readAt? line)

theorem readAt?_eq_some_iff : readAt? line i = some p ↔ Gives line i p ∧ ¬ Hidden line i := by
  unfold readAt?
  constructor
  · intro h
    split at h
    · rename_i hread
      obtain ⟨⟨hne, hall, hfits⟩, hp⟩ := tokenPid?_eq_some_iff.mp h
      exact ⟨⟨hread.1, hne, hall, hfits, hp⟩, hread.2⟩
    · contradiction
  · intro h
    obtain ⟨hgives, hhidden⟩ := h
    rw [if_pos ⟨hgives.opens, hhidden⟩]
    exact tokenPid?_eq_some_iff.mpr
      ⟨⟨hgives.digits_ne, hgives.digits_all, hgives.fits⟩, hgives.pid_eq⟩

theorem token_behind_segment (front : List Char)
    (hafter : ∀ c ∈ after.head?, isDelimiter c = true) (hopens : OpensAt xs i) :
    token (behind (front ++ (xs ++ after)) (front.length + i)) = token (behind xs i) := by
  have hbehind : behind (front ++ (xs ++ after)) (front.length + i) = behind xs i ++ after := by
    rw [behind, Nat.add_assoc, List.drop_length_add_append,
      List.drop_append_of_le_length (opensAt_length hopens), behind]
  rw [hbehind, token_append hafter]

theorem length_token_behind_le (hopens : OpensAt cs i) :
    i + marker.length + (token (behind cs i)).length ≤ cs.length := by
  have htoken := (List.takeWhile_prefix (l := behind cs i) fun c => !isDelimiter c).length_le
  have hbehind : (behind cs i).length = cs.length - (i + marker.length) := List.length_drop
  have hlength := opensAt_length hopens
  rw [token]
  omega

theorem reachesBeyond_segment (hfront : ∀ c ∈ front.getLast?, isDelimiter c = true)
    (hafter : ∀ c ∈ after.head?, isDelimiter c = true) (hj : j ≤ xs.length) :
    ReachesBeyond (front ++ (xs ++ after)) (front.length + j) (front.length + i) ↔
      ReachesBeyond xs j i := by
  unfold ReachesBeyond
  rw [opensAt_segment hfront hafter hj]
  refine and_congr_right fun hopens => ?_
  rw [token_behind_segment front hafter hopens]
  omega

theorem not_reachesBeyond_of_lt (hfront : ∀ c ∈ front.getLast?, isDelimiter c = true)
    (hj : j < front.length) : ¬ ReachesBeyond (front ++ cs) j (front.length + i) := by
  obtain ⟨before, d, rfl⟩ := (List.eq_nil_or_concat front).resolve_left (by rintro rfl; simp at hj)
  rw [List.concat_eq_append] at hfront hj ⊢
  have hd : isDelimiter d = true := hfront d (by simp)
  have hafter : ∀ c ∈ (d :: cs).head?, isDelimiter c = true := by simpa using hd
  rw [List.length_append, List.length_singleton] at hj
  intro h
  have hwithin : ReachesBeyond ([] ++ (before ++ d :: cs)) (([] : List Char).length + j)
      (([] : List Char).length + ((before ++ [d]).length + i)) := by
    simpa using h
  obtain ⟨hopens, hreach⟩ := (reachesBeyond_segment (by simp) hafter (by omega)).mp hwithin
  have hlength := length_token_behind_le hopens
  rw [List.length_append, List.length_singleton] at hreach
  omega

theorem hidden_segment (hfront : ∀ c ∈ front.getLast?, isDelimiter c = true)
    (hafter : ∀ c ∈ after.head?, isDelimiter c = true) (hi : i ≤ xs.length) :
    Hidden (front ++ (xs ++ after)) (front.length + i) ↔ Hidden xs i := by
  constructor
  · intro h
    obtain ⟨j, hji, hreach⟩ := h
    have hj : front.length ≤ j := by
      by_contra hlt
      exact not_reachesBeyond_of_lt hfront (by omega) hreach
    obtain ⟨k, rfl⟩ := Nat.exists_eq_add_of_le hj
    exact ⟨k, by omega, (reachesBeyond_segment hfront hafter (by omega)).mp hreach⟩
  · intro h
    obtain ⟨j, hji, hreach⟩ := h
    exact ⟨front.length + j, by omega, (reachesBeyond_segment hfront hafter (by omega)).mpr hreach⟩

theorem readAt?_segment (hfront : ∀ c ∈ front.getLast?, isDelimiter c = true)
    (hafter : ∀ c ∈ after.head?, isDelimiter c = true) (hi : i ≤ xs.length) :
    readAt? (front ++ (xs ++ after)) (front.length + i) = readAt? xs i := by
  unfold readAt?
  simp only [opensAt_segment hfront hafter hi, hidden_segment hfront hafter hi]
  split
  · rename_i hread
    rw [token_behind_segment front hafter hread.1]
  · rfl

theorem readAt?_length (line : List Char) : readAt? line line.length = none := by
  refine if_neg ?_
  intro h
  exact absurd (opensAt_lt h.1) (Nat.lt_irrefl _)

theorem readAt?_before_delimiter {d : Char} (hd : isDelimiter d = true) (rest : List Char)
    (hi : i ≤ xs.length) : readAt? (xs ++ d :: rest) i = readAt? xs i := by
  have hafter : ∀ c ∈ (d :: rest).head?, isDelimiter c = true := by simpa using hd
  have h : readAt? ([] ++ (xs ++ d :: rest)) (([] : List Char).length + i) = readAt? xs i :=
    readAt?_segment (by simp) hafter hi
  simpa using h

theorem readAt?_after_delimiter {d : Char} (hd : isDelimiter d = true) {rest : List Char}
    (hi : i ≤ rest.length) : readAt? (xs ++ d :: rest) (xs.length + 1 + i) = readAt? rest i := by
  have h : readAt? ((xs ++ [d]) ++ (rest ++ [])) ((xs ++ [d]).length + i) = readAt? rest i :=
    readAt?_segment (by simpa using hd) (by simp) hi
  simpa using h

theorem readings_append_delimiter {d : Char} (hd : isDelimiter d = true) (rest : List Char) :
    readings (xs ++ d :: rest) = readings xs ++ readings rest := by
  have hlength : (xs ++ d :: rest).length = xs.length + 1 + rest.length := by simp; omega
  calc
    readings (xs ++ d :: rest) =
        ((List.range (xs.length + 1)).filterMap (readAt? (xs ++ d :: rest))) ++
          (List.range rest.length).filterMap
            (fun i => readAt? (xs ++ d :: rest) (xs.length + 1 + i)) := by
      rw [readings, hlength, List.range_add, List.filterMap_append, List.filterMap_map]
      rfl
    _ = (List.range (xs.length + 1)).filterMap (readAt? xs) ++ readings rest := by
      congr 1
      · refine List.filterMap_congr fun i hi => readAt?_before_delimiter hd rest ?_
        exact Nat.le_of_lt_succ (List.mem_range.mp hi)
      · refine List.filterMap_congr fun i hi => readAt?_after_delimiter hd ?_
        exact Nat.le_of_lt (List.mem_range.mp hi)
    _ = readings xs ++ readings rest := by
      rw [List.range_succ, List.filterMap_append]
      simp [readings, readAt?_length]

theorem filterMap_range_of_single {read : Nat → Option Pid} {n : Nat} (hi : i < n)
    (hothers : ∀ k, k ≠ i → read k = none) : (List.range n).filterMap read = (read i).toList := by
  induction n with
  | zero => omega
  | succ n ih =>
    rw [List.range_succ, List.filterMap_append]
    by_cases hn : i = n
    · subst hn
      have hbefore : (List.range i).filterMap read = [] := by
        refine List.filterMap_eq_nil_iff.mpr fun k hk => hothers k ?_
        rw [List.mem_range] at hk
        omega
      cases hread : read i <;> simp [hbefore, hread]
    · rw [ih (by omega)]
      simp [hothers n (Ne.symm hn)]

/-- In a segment the first marker hides all that come after it. -/
theorem readAt?_of_free (hxs : Free xs) (hopens : OpensAt xs i)
    (hfirst : ∀ j, j < i → ¬ OpensAt xs j) :
    readAt? xs i = tokenPid? (behind xs i) ∧ ∀ k, k ≠ i → readAt? xs k = none := by
  have htoken : token (behind xs i) = behind xs i := token_of_free fun c hc =>
    hxs c (List.mem_of_mem_drop hc)
  constructor
  · have hshown : ¬ Hidden xs i := by
      intro h
      obtain ⟨j, hji, hreach⟩ := h
      exact hfirst j hji hreach.1
    rw [readAt?, if_pos ⟨hopens, hshown⟩, htoken]
  · intro k hk
    refine if_neg ?_
    intro h
    obtain ⟨hopens', hshown⟩ := h
    have hik : i < k := by
      by_contra hle
      exact hfirst k (by omega) hopens'
    refine hshown ⟨i, hik, hopens, ?_⟩
    have hlength : (behind xs i).length = xs.length - (i + marker.length) := List.length_drop
    have hlast := opensAt_lt hopens'
    rw [htoken]
    omega

theorem readings_of_free (hxs : Free xs) : readings xs = scan .ready xs := by
  rw [scan_of_free hxs, segmentPid?_eq]
  cases htoken : segmentToken? xs with
  | none =>
    have hnone := segmentToken?_eq_none_iff.mp htoken
    refine List.filterMap_eq_nil_iff.mpr fun i _ => if_neg ?_
    intro h
    exact hnone i h.1
  | some tail =>
    obtain ⟨i, hopens, hfirst, rfl⟩ := segmentToken?_eq_some_iff.mp htoken
    obtain ⟨hread, hothers⟩ := readAt?_of_free hxs hopens hfirst
    rw [readings, filterMap_range_of_single (opensAt_lt hopens) hothers, hread, Option.bind_some,
      readToken?_eq]

theorem pidsOfLine_eq_readings (line : List Char) : pidsOfLine line = readings line := by
  rw [pidsOfLine]
  induction line using Text.cut_induction isDelimiter with
  | whole xs hxs => exact (readings_of_free hxs).symm
  | cut xs d rest hxs hd ih =>
    rw [scan_append_delimiter hd, readings_append_delimiter hd, readings_of_free hxs, ih]

/-- A marker that reaches beyond another one has its letter in the token, and so gives nothing. -/
theorem not_gives_of_reachesBeyond (hji : j < i) (hreach : ReachesBeyond line j i)
    (hopens : OpensAt line i) : ¬ Gives line j p := by
  intro hgives
  obtain ⟨k, rfl⟩ := Nat.exists_eq_add_of_lt hji
  have hletter : (line.drop j)[k + 1]? = some 'p' := by
    rw [List.getElem?_drop, ← Nat.add_assoc, ← List.head?_drop, drop_of_opensAt hopens]
    rfl
  have hparts : line.drop j = marker ++ token (behind line j) ++
      (behind line j).dropWhile (fun c => !isDelimiter c) := by
    rw [drop_of_opensAt hgives.opens, token, List.append_assoc, List.takeWhile_append_dropWhile]
  have hlength : k + 1 < (marker ++ token (behind line j)).length := by
    have hend := hreach.2
    rw [List.length_append]
    omega
  rw [hparts, List.getElem?_append_left hlength] at hletter
  have hmem : 'p' ∈ ['i', 'd', '='] ++ token (behind line j) := List.mem_of_getElem? hletter
  have htoken : 'p' ∈ token (behind line j) := by simpa using hmem
  have hdigit : Decimal.isDigit 'p' = true := List.all_eq_true.mp hgives.digits_all 'p' htoken
  contradiction

/-- Of the markers of a line those are read that no earlier one reaches beyond, each with its own number
and in their order, whatever else is on the line. A marker that is passed over lies in the token of one
that gives nothing: so a malformed marker costs those within its token, and no others. -/
theorem markers_read_unless_hidden (line : List Char) :
    pidsOfLine line = (List.range line.length).filterMap (readAt? line) ∧
    (∀ i p, readAt? line i = some p ↔ Gives line i p ∧ ¬ Hidden line i) ∧
    (∀ p, p ∈ pidsOfLine line ↔ ∃ i, Gives line i p ∧ ¬ Hidden line i) ∧
    ∀ i, OpensAt line i → Hidden line i → ∃ j < i, ReachesBeyond line j i ∧ ∀ p, ¬ Gives line j p := by
  refine ⟨pidsOfLine_eq_readings line, fun _ _ => readAt?_eq_some_iff, ?_, ?_⟩
  · intro p
    rw [pidsOfLine_eq_readings, readings]
    simp only [List.mem_filterMap, List.mem_range, readAt?_eq_some_iff]
    constructor
    · intro h
      obtain ⟨i, -, hread⟩ := h
      exact ⟨i, hread⟩
    · intro h
      obtain ⟨i, hread⟩ := h
      exact ⟨i, opensAt_lt hread.1.opens, hread⟩
  · intro i hopens hhidden
    obtain ⟨j, hji, hreach⟩ := hhidden
    exact ⟨j, hji, hreach, fun p => not_gives_of_reachesBeyond hji hreach hopens⟩

/-- A malformed marker passes over the one in its token, and not over the one behind the comma. -/
theorem markers_read_unless_hidden_by_semicolon :
    let line := "pid=x;pid=8,pid=9".toList
    Gives line 6 8 ∧ Hidden line 6 ∧ (∃ j < 6, ReachesBeyond line j 6 ∧ ∀ p, ¬ Gives line j p) ∧
      Gives line 12 9 ∧ ¬ Hidden line 12 ∧ 9 ∈ pidsOfLine line := by
  intro line
  obtain ⟨-, -, hread, hpassed⟩ := markers_read_unless_hidden line
  have height : Gives line 6 8 := ⟨by decide +kernel, by decide, by decide, by decide, by decide⟩
  have hnine : Gives line 12 9 := ⟨by decide +kernel, by decide, by decide, by decide, by decide⟩
  have hhidden : Hidden line 6 := by decide +kernel
  have hshown : ¬ Hidden line 12 := by decide +kernel
  exact ⟨height, hhidden, hpassed 6 height.opens hhidden, hnine, hshown,
    (hread 9).mpr ⟨12, hnine, hshown⟩⟩

/-- Not every marker with a number of its own is read. -/
theorem marker_within_token_not_read :
    let line := "pid=x;pid=8".toList
    Gives line 6 8 ∧ pidsOfLine line = [] ∧ ¬ ∀ i p, Gives line i p → p ∈ pidsOfLine line := by
  intro line
  have height : Gives line 6 8 := ⟨by decide +kernel, by decide, by decide, by decide, by decide⟩
  have hnone : pidsOfLine line = [] := by decide +kernel
  refine ⟨height, hnone, ?_⟩
  intro hall
  have hread := hall 6 8 height
  rw [hnone] at hread
  contradiction

end SocketCensus.Marker
