import Mathlib.Data.List.Infix

/-!
Texts behind marks. A mark does not begin again within itself, so that a text without a mark ends at the
next mark and nowhere else. Texts that are put one after the other, each behind a mark, can therefore be
told apart again, whatever else they hold.
-/
namespace SocketCensus.Text

/-- A text whose first character does not come again in it. -/
structure Mark where
  first : Char
  after : List Char
  first_not_mem : first ∉ after

namespace Mark

variable (m : Mark)

def chars : List Char := m.first :: m.after

def Free (xs : List Char) : Prop := ¬ m.chars <:+: xs

/-- Nothing comes any more, or the mark comes next. -/
def Next (tail : List Char) : Prop := tail = [] ∨ m.chars <+: tail

def blocks (bodies : List (List Char)) : List Char := bodies.flatMap (m.chars ++ ·)

def ofChar (c : Char) : Mark := ⟨c, [], List.not_mem_nil⟩

variable {m} {xs ys tail others : List Char}

theorem free_ofChar {c : Char} (h : c ∉ xs) : (ofChar c).Free xs :=
  mt (List.singleton_infix_iff c xs).mp h

theorem free_of_first_not_mem (h : m.first ∉ xs) : m.Free xs := by
  intro hwithin
  exact h (hwithin.subset List.mem_cons_self)

theorem next_blocks (bodies : List (List Char)) : m.Next (m.blocks bodies) := by
  cases bodies with
  | nil => exact .inl rfl
  | cons body rest =>
    rw [blocks, List.flatMap_cons, List.append_assoc]
    exact .inr (List.prefix_append m.chars _)

theorem Next.eq_first {c : Char} (h : m.Next (c :: tail)) : c = m.first := by
  rcases h with hnil | hprefix
  · contradiction
  · obtain ⟨_, heq, _⟩ := List.cons_prefix_iff.mp hprefix
    exact (List.cons.inj heq).1

theorem Free.append_left (hys : m.Free ys) (xs : List Char) (hxs : m.first ∉ xs) :
    m.Free (xs ++ ys) := by
  intro hwithin
  induction xs with
  | nil => exact hys hwithin
  | cons x rest ih =>
    simp only [List.mem_cons, not_or] at hxs
    rcases List.infix_cons_iff.mp hwithin with hprefix | hlater
    · exact hxs.1 (Next.eq_first (.inr hprefix)).symm
    · exact ih hxs.2 hlater

theorem Free.eq_nil_of_next {extra : List Char} (hfree : m.Free (xs ++ extra))
    (hnext : m.Next (extra ++ tail)) (htail : m.Next tail) : extra = [] := by
  by_contra hextra
  rcases hnext with hnil | ⟨further, hmark⟩
  · exact hextra (List.append_eq_nil_iff.mp hnil).1
  · rcases List.append_eq_append_iff.mp hmark with ⟨more, rfl, -⟩ | ⟨left, hsplit, rfl⟩
    · exact hfree ⟨xs, more, List.append_assoc _ _ _⟩
    · cases left with
      | nil =>
        rw [List.append_nil] at hsplit
        exact hfree ⟨xs, [], by rw [hsplit, List.append_nil]⟩
      | cons c rest =>
        -- the mark would reach into the next one, but it does not begin again within itself
        obtain rfl := htail.eq_first
        obtain ⟨e, es, rfl⟩ := List.exists_cons_of_ne_nil hextra
        have hafter : m.after = es ++ m.first :: rest := (List.cons.inj hsplit).2
        exact m.first_not_mem (hafter ▸ by simp)

/-- There is one place at which a text without a mark can end. -/
theorem append_inj (hxs : m.Free xs) (hys : m.Free ys) (htail : m.Next tail) (hothers : m.Next others)
    (h : xs ++ tail = ys ++ others) : xs = ys ∧ tail = others := by
  rcases List.append_eq_append_iff.mp h with ⟨extra, rfl, rfl⟩ | ⟨extra, rfl, rfl⟩
  · obtain rfl := hys.eq_nil_of_next htail hothers
    simp
  · obtain rfl := hxs.eq_nil_of_next hothers htail
    simp

theorem blocks_inj {bodies more : List (List Char)} (hbodies : ∀ body ∈ bodies, m.Free body)
    (hmore : ∀ body ∈ more, m.Free body) (h : m.blocks bodies = m.blocks more) : bodies = more := by
  induction bodies generalizing more with
  | nil =>
    cases more with
    | nil => rfl
    | cons other rest => simp [blocks, chars] at h
  | cons body rest ih =>
    cases more with
    | nil => simp [blocks, chars] at h
    | cons other further =>
      simp only [List.forall_mem_cons] at hbodies hmore
      have hsplit : body ++ m.blocks rest = other ++ m.blocks further := by simpa [blocks] using h
      obtain ⟨rfl, hrest⟩ :=
        append_inj hbodies.1 hmore.1 (next_blocks rest) (next_blocks further) hsplit
      rw [ih hbodies.2 hmore.2 hrest]

end Mark

/-- A character that neither of two texts has ends both of them. -/
theorem append_cons_inj {c : Char} {xs ys tail others : List Char} (hxs : c ∉ xs) (hys : c ∉ ys)
    (h : xs ++ c :: tail = ys ++ c :: others) : xs = ys ∧ tail = others := by
  have hsame := Mark.append_inj (Mark.free_ofChar hxs) (Mark.free_ofChar hys) (.inr ⟨tail, rfl⟩)
    (.inr ⟨others, rfl⟩) h
  exact hsame.imp_right List.tail_eq_of_cons_eq

end SocketCensus.Text
