import SocketCensus.Text.Utf8

/-!
ASCII in a byte string. A byte below `0x80` stands for its character whatever is around it: it
goes on no unfinished character and leaves none unfinished. A word of such bytes cuts the lossy
reading of a byte string in two.
-/
namespace SocketCensus.Utf8

variable {b : UInt8}

/-- The characters that stand for themselves in a byte string. -/
def asciiText (word : List UInt8) : List Char := word.map fun b => Char.ofNat b.toNat

@[simp] theorem decodeLossy_nil : decodeLossy [] = [] := rfl

/-- An ASCII byte breaks off what is unfinished, as the end of the bytes would. -/
theorem step_ascii (state : Option Partial) (hb : b.toNat < 0x80) :
    step state b = (piecesFrom state [] ++ [some (Char.ofNat b.toNat)], none) := by
  have hlead : lead b = .whole (Char.ofNat b.toNat) := by
    simp [lead, hb]
  cases state with
  | none => simp [step, hlead, piecesFrom]
  | some p =>
    have hlow : ¬ p.low ≤ b.toNat := by
      have := p.low_ge
      omega
    simp [step, hlead, hlow, piecesFrom]

theorem piecesFrom_append_ascii (state : Option Partial) (before after : List UInt8)
    (hb : b.toNat < 0x80) :
    piecesFrom state (before ++ b :: after) =
      piecesFrom state before ++ some (Char.ofNat b.toNat) :: piecesFrom none after := by
  induction before generalizing state with
  | nil => simp [piecesFrom_cons, step_ascii state hb]
  | cons x rest ih => rw [List.cons_append, piecesFrom_cons, piecesFrom_cons, ih, List.append_assoc]

theorem decodeLossy_append_ascii (before after : List UInt8) (hb : b.toNat < 0x80) :
    decodeLossy (before ++ b :: after) =
      decodeLossy before ++ Char.ofNat b.toNat :: decodeLossy after := by
  simp [decodeLossy, pieces, piecesFrom_append_ascii none before after hb]

theorem decodeLossy_ascii_append {word : List UInt8} (hword : ∀ b ∈ word, b.toNat < 0x80)
    (after : List UInt8) :
    decodeLossy (word ++ after) = asciiText word ++ decodeLossy after := by
  induction word with
  | nil => rfl
  | cons b rest ih =>
    have hb := hword b List.mem_cons_self
    have hrest := ih fun x hx => hword x (List.mem_cons_of_mem b hx)
    have hcut := decodeLossy_append_ascii [] (rest ++ after) hb
    rw [hrest] at hcut
    exact hcut

/-- Whatever surrounds a word of ASCII bytes, broken characters included, the word is read as it
stands and the surroundings as if they stood alone. -/
theorem decodeLossy_around {word : List UInt8} (hne : word ≠ [])
    (hword : ∀ b ∈ word, b.toNat < 0x80) (before after : List UInt8) :
    decodeLossy (before ++ word ++ after) =
      decodeLossy before ++ asciiText word ++ decodeLossy after := by
  obtain ⟨b, rest, rfl⟩ := List.exists_cons_of_ne_nil hne
  have hb := hword b List.mem_cons_self
  have hrest := decodeLossy_ascii_append (fun x hx => hword x (List.mem_cons_of_mem b hx)) after
  rw [List.append_assoc, List.cons_append, decodeLossy_append_ascii before _ hb, hrest]
  simp [asciiText]

end SocketCensus.Utf8
