import Mathlib.Data.List.TakeWhile
import SocketCensus.Discovery.SocketTool
import SocketCensus.Proofs.Text.Lines

/-!
How the scan for markers goes over a text. A delimiter starts it anew, so that a text is scanned
piece by piece between its delimiters; within a piece the scan goes on to the first marker that
follows no word, and takes everything after it for the token.
-/
namespace SocketCensus

/-- White space belongs to no word: the two tables of ranges have nothing in common. -/
theorem Text.isWord_of_isBlank {c : Char} (hc : isBlank c = true) : isWord c = false := by
  have hapart : ∀ blank ∈ blankRanges, ∀ word ∈ wordRanges,
      blank.2 < word.1 ∨ word.2 < blank.1 := by
    decide +kernel
  obtain ⟨blank, hblank, hfirst, hlast⟩ := (isBlank_eq_true_iff c).mp hc
  rw [Bool.eq_false_iff]
  intro hword
  obtain ⟨word, hmem, hfirst', hlast'⟩ := (inTable_eq_true_iff wordRanges c).mp hword
  rcases hapart blank hblank word hmem with h | h
  · omega
  · omega

namespace Marker

variable {d : Char}

def Free (cs : List Char) : Prop := ∀ c ∈ cs, isDelimiter c = false

theorem after_delimiter (hd : isDelimiter d = true) : Mode.after d = .ready := by
  have hword : Text.isWord d = false := by
    simp only [isDelimiter, Bool.or_eq_true, beq_iff_eq] at hd
    rcases hd with rfl | hblank
    · decide +kernel
    · exact Text.isWord_of_isBlank hblank
  simp [Mode.after, hword]

theorem free_marker : Free marker := by
  intro c hc
  simp only [marker, List.mem_cons, List.not_mem_nil, or_false] at hc
  rcases hc with rfl | rfl | rfl | rfl <;> decide

theorem not_mem_marker (hd : isDelimiter d = true) : d ∉ marker := by
  intro hmem
  rw [free_marker d hmem] at hd
  contradiction

theorem token_of_free {cs : List Char} (hcs : Free cs) : token cs = cs := by
  refine List.takeWhile_eq_self_iff.mpr ?_
  intro c hc
  simp [hcs c hc]

theorem token_append_delimiter (hd : isDelimiter d = true) (xs rest : List Char) :
    token (xs ++ d :: rest) = token xs := by
  induction xs with
  | nil => simp [token, hd]
  | cons x xs ih =>
    simp only [token, List.cons_append, List.takeWhile_cons] at ih ⊢
    split
    · rw [ih]
    · rfl

theorem token_append {xs after : List Char} (hafter : ∀ c ∈ after.head?, isDelimiter c = true) :
    token (xs ++ after) = token xs := by
  cases after with
  | nil => rw [List.append_nil]
  | cons d rest => exact token_append_delimiter (hafter d rfl) xs rest

/-- A marker that has begun needs one of its own letters to go on. -/
theorem marker_prefix_append {cs rest : List Char} (hcs : cs ≠ [])
    (hrest : ∀ c ∈ rest.head?, c ∉ ['i', 'd', '=']) : marker <+: cs ++ rest ↔ marker <+: cs := by
  constructor
  · intro h
    rcases List.prefix_or_prefix_of_prefix h (List.prefix_append cs rest) with hwhole | hbegun
    · exact hwhole
    · obtain ⟨tail, htail⟩ := hbegun
      obtain ⟨c, begun, rfl⟩ := List.exists_cons_of_ne_nil hcs
      rw [← htail, List.prefix_append_right_inj] at h
      cases tail with
      | nil => exact ⟨[], by rw [← htail, List.append_nil, List.append_nil]⟩
      | cons t tail =>
        obtain ⟨more, rfl⟩ := h
        have hletters : begun ++ t :: tail = ['i', 'd', '='] := (List.cons.inj htail).2
        exact absurd (by simp [← hletters]) (hrest t rfl)
  · intro h
    exact h.trans (List.prefix_append cs rest)

/-- What follows a marker is read twice over: for its token, and for the end of the token. -/
theorem scan_marker (tail : List Char) :
    scan .ready (marker ++ tail) =
      (tokenPid? (token tail)).toList ++ scan .inToken (['i', 'd', '='] ++ tail) := by
  have hmarker : marker.isPrefixOf ('p' :: (['i', 'd', '='] ++ tail)) = true := by
    simp [marker]
  show scan .ready ('p' :: (['i', 'd', '='] ++ tail)) = _
  rw [scan, if_pos hmarker]
  rfl

/-- A delimiter starts the scan anew, whatever was before it. -/
theorem scan_append_delimiter (hd : isDelimiter d = true) (m : Mode) (xs rest : List Char) :
    scan m (xs ++ d :: rest) = scan m xs ++ scan .ready rest := by
  induction xs generalizing m with
  | nil =>
    have hstart : ¬ marker <+: d :: rest := by
      intro h
      have hp : 'p' = d := (List.cons_prefix_cons.mp h).1
      rw [← hp] at hd
      exact not_mem_marker hd List.mem_cons_self
    cases m with
    | ready => simp [scan, hstart, after_delimiter hd]
    | inWord => simp [scan, after_delimiter hd]
    | inToken => simp [scan, hd, after_delimiter hd]
  | cons x xs ih =>
    cases m with
    | ready =>
      -- The delimiter is no letter of a marker: one that begins before it also ends before it.
      have hletter : ∀ c ∈ (d :: rest).head?, c ∉ ['i', 'd', '='] := by
        intro c hc hmem
        rw [← Option.some.inj hc] at hmem
        exact not_mem_marker hd (List.mem_cons_of_mem 'p' hmem)
      have hmarker := marker_prefix_append (List.cons_ne_nil x xs) hletter
      rw [List.cons_append] at hmarker
      by_cases hx : marker <+: x :: xs
      · obtain ⟨tail, htail⟩ := hx
        have hxs : xs = ['i', 'd', '='] ++ tail := (List.cons.inj htail).2.symm
        have htoken := ih .inToken
        rw [hxs, List.append_assoc] at htoken
        rw [← htail, List.append_assoc, scan_marker, scan_marker, token_append_delimiter hd, htoken,
          List.append_assoc]
      · simp [scan, hmarker, hx, ih]
    | inWord => simp [scan, ih]
    | inToken => simp [scan, ih]

theorem scan_cons_delimiter (hd : isDelimiter d = true) (rest : List Char) :
    scan .ready (d :: rest) = scan .ready rest := by
  have h := scan_append_delimiter hd .ready [] rest
  simpa [scan] using h

/-- Delimiters at its ends make a piece of text independent of what surrounds it. -/
theorem scan_around {before after : List Char} (piece : List Char)
    (hbefore : ∀ c ∈ before.getLast?, isDelimiter c = true)
    (hafter : ∀ c ∈ after.head?, isDelimiter c = true) :
    scan .ready (before ++ piece ++ after) =
      scan .ready before ++ scan .ready piece ++ scan .ready after := by
  have hopen : scan .ready (before ++ piece) = scan .ready before ++ scan .ready piece := by
    rcases List.eq_nil_or_concat before with rfl | ⟨front, d, rfl⟩
    · simp [scan]
    · have hd := hbefore d (by simp)
      simp [scan_append_delimiter hd, scan]
  cases after with
  | nil => simp [hopen, scan]
  | cons d rest =>
    have hd := hafter d (by simp)
    rw [scan_append_delimiter hd, hopen, scan_cons_delimiter hd]

theorem scan_inToken_of_free {cs : List Char} (hcs : Free cs) : scan .inToken cs = [] := by
  induction cs with
  | nil => rfl
  | cons c rest ih =>
    have hc := hcs c List.mem_cons_self
    have hrest := ih fun x hx => hcs x (List.mem_cons_of_mem c hx)
    simp [scan, hc, hrest]

theorem scan_marker_append {tail : List Char} (htail : Free tail) :
    scan .ready (marker ++ tail) = (tokenPid? tail).toList := by
  have hrest : Free (['i', 'd', '='] ++ tail) := by
    intro c hc
    rcases List.mem_append.mp hc with hc | hc
    · exact free_marker c (List.mem_cons_of_mem 'p' hc)
    · exact htail c hc
  rw [scan_marker, token_of_free htail, scan_inToken_of_free hrest, List.append_nil]

/-- Lines are scanned as the text they are the lines of. -/
theorem pids_lines (cs : List Char) : pids (Text.lines cs) = scan .ready cs := by
  induction cs using Text.cut_induction (fun c => c == '\n') with
  | whole xs hxs =>
    have hbreak : '\n' ∉ xs := by
      intro hmem
      simpa using hxs '\n' hmem
    rw [Text.lines_of_no_break hbreak]
    split
    · rename_i hempty
      simp [hempty, pids, scan]
    · simp [pids, pidsOfLine]
  | cut xs c rest hxs hc ih =>
    have hbreak : '\n' ∉ xs := by
      intro hmem
      simpa using hxs '\n' hmem
    rw [beq_iff_eq] at hc
    subst hc
    have hreturn : pidsOfLine (Text.dropReturn xs) = scan .ready xs := by
      rcases Text.dropReturn_cases xs with hsame | hmore
      · rw [hsame, pidsOfLine]
      · have hblank : isDelimiter '\r' = true := by decide
        have h := scan_append_delimiter hblank .ready (Text.dropReturn xs) []
        rw [← hmore] at h
        simpa [pidsOfLine, scan] using h.symm
    rw [Text.lines_append_break hbreak, scan_append_delimiter (by decide), ← ih, ← hreturn]
    simp [pids]

theorem pids_lines_append_break (before after : List Char) :
    pids (Text.lines (before ++ '\n' :: after)) =
      pids (Text.lines before) ++ pids (Text.lines after) := by
  have hbreak : isDelimiter '\n' = true := by decide
  rw [pids_lines, pids_lines, pids_lines, scan_append_delimiter hbreak]

theorem pids_lines_intercalate (texts : List (List Char)) :
    pids (Text.lines (['\n'].intercalate texts)) = texts.flatMap fun t => pids (Text.lines t) := by
  induction texts with
  | nil => rfl
  | cons t rest ih =>
    cases rest with
    | nil => simp
    | cons next rest =>
      rw [List.flatMap_cons, ← ih, List.intercalate_cons_cons, List.append_assoc,
        List.singleton_append, pids_lines_append_break]

/-- Cutting a text into lines changes nothing about what is read in it, whatever its line breaks and
carriage returns are, and so nothing about what is found in the output of a tool. Texts on lines of their
own are read one after the other: nothing that is on one line changes what is read on another. -/
theorem lines_read_as_one_text :
    (∀ text, pids (Text.lines text) = pids [text]) ∧
    (∀ before after, pids (Text.lines (before ++ '\n' :: after)) =
      pids (Text.lines before) ++ pids (Text.lines after)) ∧
    (∀ texts, pids (Text.lines (['\n'].intercalate texts)) =
      texts.flatMap fun t => pids (Text.lines t)) ∧
    ∀ stdout, SocketTool.pidsOfOutput stdout = Pid.distinct (pids [Utf8.decodeLossy stdout]) := by
  have hwhole (text : List Char) : pids (Text.lines text) = pids [text] := by
    rw [pids_lines]
    simp [pids, pidsOfLine]
  refine ⟨hwhole, pids_lines_append_break, pids_lines_intercalate, ?_⟩
  intro stdout
  rw [SocketTool.pidsOfOutput, hwhole]

end Marker
end SocketCensus
