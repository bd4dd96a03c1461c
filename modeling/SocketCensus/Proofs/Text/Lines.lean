import SocketCensus.Text.Line

/-!
Cutting a text. Every text either holds none of the characters at which it is cut, or has a first
one with an uncut text before it; what is true of uncut texts and carries over one cut at a time
is true of all texts. Lines are cut off at line feeds in this way.
-/
namespace SocketCensus.Text

theorem cut_induction {P : List Char → Prop} (isCut : Char → Bool)
    (whole : ∀ xs, (∀ x ∈ xs, isCut x = false) → P xs)
    (cut : ∀ xs c rest, (∀ x ∈ xs, isCut x = false) → isCut c = true → P rest → P (xs ++ c :: rest))
    (cs : List Char) : P cs := by
  have hfrom (xs : List Char) (hxs : ∀ x ∈ xs, isCut x = false) : P (xs ++ cs) := by
    induction cs generalizing xs with
    | nil =>
      rw [List.append_nil]
      exact whole xs hxs
    | cons c rest ih =>
      cases hc : isCut c with
      | true => exact cut xs c rest hxs hc (ih [] (by simp))
      | false =>
        have hlonger : ∀ x ∈ xs ++ [c], isCut x = false := by
          intro x hx
          rcases List.mem_append.mp hx with hx | hx
          · exact hxs x hx
          · rw [List.mem_singleton.mp hx]
            exact hc
        simpa only [List.append_assoc, List.singleton_append] using ih (xs ++ [c]) hlonger
  exact hfrom [] (by simp)

variable {xs : List Char}

theorem pieces_ne_nil (cs : List Char) : pieces cs ≠ [] := by
  cases cs with
  | nil => simp [pieces]
  | cons c rest =>
    simp only [pieces]
    split
    · simp
    · split <;> simp

theorem pieces_of_no_break (hxs : '\n' ∉ xs) : pieces xs = [xs] := by
  induction xs with
  | nil => rfl
  | cons c rest ih =>
    simp only [List.mem_cons, not_or] at hxs
    simp [pieces, Ne.symm hxs.1, ih hxs.2]

theorem pieces_append_break (hxs : '\n' ∉ xs) (rest : List Char) :
    pieces (xs ++ '\n' :: rest) = xs :: pieces rest := by
  induction xs with
  | nil => simp [pieces]
  | cons c before ih =>
    simp only [List.mem_cons, not_or] at hxs
    simp [pieces, Ne.symm hxs.1, ih hxs.2]

/-- A text without a line feed is a line, unless it is empty. -/
theorem lines_of_no_break (hxs : '\n' ∉ xs) : lines xs = if xs = [] then [] else [xs] := by
  simp [lines, pieces_of_no_break hxs, linesOfPieces]

theorem lines_append_break (hxs : '\n' ∉ xs) (rest : List Char) :
    lines (xs ++ '\n' :: rest) = dropReturn xs :: lines rest := by
  obtain ⟨piece, others, hpieces⟩ := List.exists_cons_of_ne_nil (pieces_ne_nil rest)
  simp [lines, pieces_append_break hxs rest, hpieces, linesOfPieces]

/-- A line loses nothing but a carriage return at its end. -/
theorem dropReturn_cases (line : List Char) :
    dropReturn line = line ∨ line = dropReturn line ++ ['\r'] := by
  unfold dropReturn
  split
  · rename_i before hreverse
    have hline := congrArg List.reverse hreverse
    rw [List.reverse_reverse, List.reverse_cons] at hline
    exact Or.inr hline
  · exact Or.inl rfl

end SocketCensus.Text
