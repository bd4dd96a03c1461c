import SocketCensus.Text.CodeRange

/-!
White space: the characters that separate the columns of a listing and that are cut
off the ends of a diagnostic.
-/
namespace SocketCensus.Text

/-- The characters with the property White_Space, 25 in all. -/
def blankRanges : List (Nat × Nat) :=
  [(0x9, 0xd), (0x20, 0x20), (0x85, 0x85), (0xa0, 0xa0), (0x1680, 0x1680),
   (0x2000, 0x200a), (0x2028, 0x2029), (0x202f, 0x202f), (0x205f, 0x205f), (0x3000, 0x3000)]

def isBlank (c : Char) : Bool := inTable blankRanges c

def trimStart (cs : List Char) : List Char := cs.dropWhile isBlank

def trim (cs : List Char) : List Char := (trimStart (trimStart cs).reverse).reverse

theorem isBlank_eq_true_iff (c : Char) :
    isBlank c = true ↔ ∃ r ∈ blankRanges, r.1 ≤ c.toNat ∧ c.toNat ≤ r.2 :=
  inTable_eq_true_iff _ c

end SocketCensus.Text
