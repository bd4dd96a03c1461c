import SocketCensus.Proofs.Discovery.Scan

/-!
Which processes a text names. A place of a text names a process if it holds a marker with nothing
but a number up to the next delimiter, and no marker came before it since the last delimiter.
The scan finds the processes named at such places and no others.
-/
namespace SocketCensus

namespace Marker

variable {cs rest : List Char} {p : Pid}

/-- No word goes on where the text ends. -/
def AtBoundary (cs : List Char) : Prop := ∀ c ∈ cs.getLast?, Text.isWord c = false

/-- The text holds no marker that counts: each one goes on a word. -/
def Unmarked (cs : List Char) : Prop :=
  ∀ before after, cs = before ++ marker ++ after → ¬ AtBoundary before

/-- A place of a text that names a process. -/
structure Naming (cs : List Char) where
  before : List Char
  inner : List Char
  digits : List Char
  after : List Char
  text_eq : cs = before ++ (inner ++ marker ++ digits) ++ after
  opened : ∀ c ∈ before.getLast?, isDelimiter c = true
  closed : ∀ c ∈ after.head?, isDelimiter c = true
  inner_free : Free inner
  inner_unmarked : Unmarked inner
  inner_boundary : AtBoundary inner
  digits_ne : digits ≠ []
  digits_all : digits.all Decimal.isDigit = true
  fits : Decimal.value digits ≤ Decimal.largest

def Naming.pid (n : Naming cs) : Pid := Decimal.value n.digits

def Mode.afterText (m : Mode) (cs : List Char) : Mode := cs.foldl (fun _ c => .after c) m

theorem after_ne_inToken (c : Char) : Mode.after c ≠ .inToken := by
  unfold Mode.after
  split <;> simp

theorem afterText_ne_inToken {m : Mode} (hm : m ≠ .inToken) (cs : List Char) :
    m.afterText cs ≠ .inToken := by
  induction cs generalizing m with
  | nil => exact hm
  | cons c cs ih => exact ih (after_ne_inToken c)

theorem afterText_eq_ready_iff : Mode.afterText .ready cs = .ready ↔ AtBoundary cs := by
  rcases List.eq_nil_or_concat cs with rfl | ⟨front, c, rfl⟩
  · simp [Mode.afterText, AtBoundary]
  · simp [Mode.afterText, AtBoundary, Mode.after]

theorem tokenPid?_eq_some_iff : tokenPid? cs = some p ↔
    (cs ≠ [] ∧ cs.all Decimal.isDigit = true ∧ Decimal.value cs ≤ Decimal.largest) ∧
      p = Decimal.value cs := by
  unfold tokenPid?
  split
  · rename_i hcs
    simp [hcs, eq_comm]
  · rename_i hcs
    constructor
    · intro h
      contradiction
    · intro h
      exact absurd h.1 hcs

theorem isDelimiter_of_isDigit {c : Char} (hc : Decimal.isDigit c = true) :
    isDelimiter c = false := by
  have hrange : '0' ≤ c ∧ c ≤ '9' := by
    by_contra hout
    simp [Decimal.isDigit, Decimal.digit?, hout] at hc
  have hword : Text.isWord c = true := by
    refine (Text.inTable_eq_true_iff _ c).mpr ⟨(0x30, 0x39), by decide, ?_⟩
    exact ⟨hrange.1, hrange.2⟩
  rw [Bool.eq_false_iff]
  intro hd
  have hready := after_delimiter hd
  simp [Mode.after, hword] at hready

theorem free_of_all_isDigit (hcs : cs.all Decimal.isDigit = true) : Free cs := by
  intro c hc
  exact isDelimiter_of_isDigit (List.all_eq_true.mp hcs c hc)

/-- The scan goes past a text if every marker that starts in it goes on a word. -/
theorem scan_skip {m : Mode} (hm : m ≠ .inToken)
    (hcs : ∀ before tail, cs = before ++ tail → tail ≠ [] → marker <+: tail ++ rest →
      m.afterText before ≠ .ready) :
    scan m (cs ++ rest) = scan (m.afterText cs) rest := by
  induction cs generalizing m with
  | nil => rfl
  | cons c cs ih =>
    have hlater := ih (after_ne_inToken c) fun before tail heq =>
      hcs (c :: before) tail (by rw [heq, List.cons_append])
    cases m with
    | ready =>
      have hstart : ¬ marker <+: c :: (cs ++ rest) := by
        intro hmarker
        exact hcs [] (c :: cs) rfl (List.cons_ne_nil c cs) hmarker rfl
      simp [scan, hstart, hlater, Mode.afterText]
    | inWord => simp [scan, hlater, Mode.afterText]
    | inToken => contradiction

theorem scan_of_not_mem (hcs : 'p' ∉ cs) {m : Mode} (hm : m ≠ .inToken) (rest : List Char) :
    scan m (cs ++ rest) = scan (m.afterText cs) rest := by
  refine scan_skip hm ?_
  intro before tail heq hne hmarker _
  obtain ⟨c, more, rfl⟩ := List.exists_cons_of_ne_nil hne
  have hp : 'p' = c := (List.cons_prefix_cons.mp hmarker).1
  apply hcs
  rw [heq, ← hp]
  simp

theorem unmarked_of_not_mem (hcs : 'p' ∉ cs) : Unmarked cs := by
  intro before after heq
  exact absurd (by simp [heq, marker]) hcs

theorem scan_of_unmarked (hcs : Unmarked cs) (hrest : ∀ c ∈ rest.head?, c ∉ ['i', 'd', '=']) :
    scan .ready (cs ++ rest) = scan (Mode.afterText .ready cs) rest := by
  refine scan_skip (by simp) ?_
  intro before tail heq hne hmarker hready
  obtain ⟨after, hafter⟩ := (marker_prefix_append hne hrest).mp hmarker
  have hmarked : cs = before ++ marker ++ after := by
    rw [heq, ← hafter, List.append_assoc]
  exact hcs before after hmarked (afterText_eq_ready_iff.mp hready)

theorem scan_eq_nil_of_unmarked (hcs : Unmarked cs) : scan .ready cs = [] := by
  have h : scan .ready (cs ++ []) = scan (Mode.afterText .ready cs) [] :=
    scan_of_unmarked hcs (by simp)
  simpa [scan] using h

/-- Between two delimiters the first marker decides. -/
theorem scan_first_marker {inner tail : List Char} (hinner : Unmarked inner)
    (hboundary : AtBoundary inner) (htail : Free tail) :
    scan .ready (inner ++ marker ++ tail) = (tokenPid? tail).toList := by
  rw [List.append_assoc, scan_of_unmarked hinner (by simp [marker]),
    afterText_eq_ready_iff.mpr hboundary, scan_marker_append htail]

theorem exists_first_marker (cs : List Char) : Unmarked cs ∨ ∃ inner tail,
    cs = inner ++ marker ++ tail ∧ Unmarked inner ∧ AtBoundary inner := by
  induction hlength : cs.length using Nat.strong_induction_on generalizing cs with
  | _ n ih =>
    by_cases hcs : Unmarked cs
    · exact Or.inl hcs
    · simp only [Unmarked, not_forall, not_not] at hcs
      obtain ⟨before, after, heq, hboundary⟩ := hcs
      have hshorter : before.length < n := by
        rw [← hlength, heq]
        simp [marker]
      rcases ih before.length hshorter before rfl with hnone | ⟨inner, tail, hbefore, hfirst⟩
      · exact Or.inr ⟨before, after, heq, hnone, hboundary⟩
      · refine Or.inr ⟨inner, tail ++ marker ++ after, ?_, hfirst⟩
        rw [heq, hbefore]
        simp only [List.append_assoc]

theorem mem_scan_of_free (hcs : Free cs) : p ∈ scan .ready cs ↔ ∃ inner digits,
    cs = inner ++ marker ++ digits ∧ Unmarked inner ∧ AtBoundary inner ∧
      tokenPid? digits = some p := by
  constructor
  · intro hp
    rcases exists_first_marker cs with hnone | ⟨inner, tail, rfl, hinner, hboundary⟩
    · rw [scan_eq_nil_of_unmarked hnone] at hp
      contradiction
    · have htail : Free tail := fun c hc => hcs c (List.mem_append_right _ hc)
      rw [scan_first_marker hinner hboundary htail, Option.mem_toList] at hp
      exact ⟨inner, tail, rfl, hinner, hboundary, hp⟩
  · intro hnamed
    obtain ⟨inner, digits, rfl, hinner, hboundary, hp⟩ := hnamed
    have hdigits : Free digits := fun c hc => hcs c (List.mem_append_right _ hc)
    rw [scan_first_marker hinner hboundary hdigits, Option.mem_toList]
    exact hp

def Naming.behind (n : Naming cs) (front : List Char) {d : Char} (hd : isDelimiter d = true) :
    Naming (front ++ d :: cs) where
  before := front ++ d :: n.before
  inner := n.inner
  digits := n.digits
  after := n.after
  text_eq := by
    calc
      front ++ d :: cs = front ++ d :: (n.before ++ (n.inner ++ marker ++ n.digits) ++ n.after) := by
        rw [← n.text_eq]
      _ = front ++ d :: n.before ++ (n.inner ++ marker ++ n.digits) ++ n.after := by
        simp only [List.append_assoc, List.cons_append]
  opened := by
    intro c hc
    rw [List.getLast?_append, List.getLast?_cons, Option.some_or] at hc
    cases hlast : n.before.getLast? with
    | none =>
      rw [hlast] at hc
      rw [← Option.some.inj hc]
      exact hd
    | some last =>
      rw [hlast] at hc
      exact n.opened c (hlast.trans hc)
  closed := n.closed
  inner_free := n.inner_free
  inner_unmarked := n.inner_unmarked
  inner_boundary := n.inner_boundary
  digits_ne := n.digits_ne
  digits_all := n.digits_all
  fits := n.fits

theorem exists_naming_of_free (hcs : Free cs) (after : List Char)
    (hafter : ∀ c ∈ after.head?, isDelimiter c = true) (hp : p ∈ scan .ready cs) :
    ∃ n : Naming (cs ++ after), n.pid = p := by
  obtain ⟨inner, digits, rfl, hinner, hboundary, htoken⟩ := (mem_scan_of_free hcs).mp hp
  obtain ⟨⟨hne, hall, hfits⟩, rfl⟩ := tokenPid?_eq_some_iff.mp htoken
  have hfree : Free inner := fun c hc =>
    hcs c (List.mem_append_left _ (List.mem_append_left _ hc))
  exact ⟨⟨[], inner, digits, after, rfl, by simp, hafter, hfree, hinner, hboundary, hne, hall,
    hfits⟩, rfl⟩

theorem exists_naming (hp : p ∈ scan .ready cs) : ∃ n : Naming cs, n.pid = p := by
  induction cs using Text.cut_induction isDelimiter with
  | whole xs hxs =>
    have h := exists_naming_of_free hxs [] (by simp) hp
    rw [List.append_nil] at h
    exact h
  | cut xs d rest hxs hd ih =>
    rw [scan_append_delimiter hd, List.mem_append] at hp
    rcases hp with hp | hp
    · exact exists_naming_of_free hxs (d :: rest) (by simpa using hd) hp
    · obtain ⟨n, hn⟩ := ih hp
      exact ⟨n.behind xs hd, hn⟩

theorem Naming.pid_mem (n : Naming cs) : n.pid ∈ scan .ready cs := by
  have hfree : Free n.digits := free_of_all_isDigit n.digits_all
  have htoken : tokenPid? n.digits = some n.pid :=
    tokenPid?_eq_some_iff.mpr ⟨⟨n.digits_ne, n.digits_all, n.fits⟩, rfl⟩
  have hpiece := scan_first_marker n.inner_unmarked n.inner_boundary hfree
  have haround := scan_around (n.inner ++ marker ++ n.digits) n.opened n.closed
  rw [← n.text_eq, hpiece, htoken] at haround
  rw [haround]
  simp

/-- The scan finds what a text names. -/
theorem mem_scan_iff : p ∈ scan .ready cs ↔ ∃ n : Naming cs, n.pid = p := by
  constructor
  · exact exists_naming
  · intro hnamed
    obtain ⟨n, rfl⟩ := hnamed
    exact n.pid_mem

end Marker
end SocketCensus
