/-!
Reading bytes as UTF-8, one byte at a time. The reader remembers the bytes of a character
that is not complete yet. Where a byte cannot go on, the bytes remembered count as one
piece that is no character and the byte is looked at afresh, so each such piece is as long
as the start of some character can be.
-/
namespace SocketCensus.Utf8

/-- An unfinished character: the value of its bits so far, the range in which the next byte
has to lie, and how many bytes are owed after that one. No byte below `0x80` can go on. -/
structure Partial where
  bits : Nat
  low : Nat
  high : Nat
  owed : Nat
  low_ge : 0x80 ≤ low

inductive Lead
  | whole (c : Char)
  | start (p : Partial)
  | broken

/-- The byte after a first byte is restricted where the encoding would be longer than needed,
a surrogate, or above the last code point. -/
def lead (b : UInt8) : Lead :=
  let n := b.toNat
  if n < 0x80 then .whole (Char.ofNat n)
  else if n < 0xc2 then .broken
  else if n < 0xe0 then .start ⟨n - 0xc0, 0x80, 0xbf, 0, by decide⟩
  else if n = 0xe0 then .start ⟨0, 0xa0, 0xbf, 1, by decide⟩
  else if n = 0xed then .start ⟨0xd, 0x80, 0x9f, 1, by decide⟩
  else if n < 0xf0 then .start ⟨n - 0xe0, 0x80, 0xbf, 1, by decide⟩
  else if n = 0xf0 then .start ⟨0, 0x90, 0xbf, 2, by decide⟩
  else if n < 0xf4 then .start ⟨n - 0xf0, 0x80, 0xbf, 2, by decide⟩
  else if n = 0xf4 then .start ⟨4, 0x80, 0x8f, 2, by decide⟩
  else .broken

/-- Reads one byte: the pieces that it completes, `none` for one that is no character, and
what is unfinished after it. -/
def step (state : Option Partial) (b : UInt8) : List (Option Char) × Option Partial :=
  let afresh : List (Option Char) × Option Partial :=
    match lead b with
    | .whole c => ([some c], none)
    | .start p => ([], some p)
    | .broken => ([none], none)
  match state with
  | none => afresh
  | some p =>
    if p.low ≤ b.toNat ∧ b.toNat ≤ p.high then
      let bits := p.bits * 64 + (b.toNat - 0x80)
      match p.owed with
      | 0 => ([some (Char.ofNat bits)], none)
      | owed + 1 => ([], some ⟨bits, 0x80, 0xbf, owed, by decide⟩)
    else (none :: afresh.1, afresh.2)

def piecesFrom : Option Partial → List UInt8 → List (Option Char)
  | none, [] => []
  | some _, [] => [none]
  | state, b :: rest => (step state b).1 ++ piecesFrom (step state b).2 rest

def pieces (bytes : List UInt8) : List (Option Char) := piecesFrom none bytes

def replacement : Char := '\ufffd'

/-- Every byte string has a lossy reading, with one replacement per broken piece. -/
def decodeLossy (bytes : List UInt8) : List Char :=
  (pieces bytes).map fun piece => piece.getD replacement

def decode? (bytes : List UInt8) : Option (List Char) := (pieces bytes).mapM id

theorem piecesFrom_cons (state : Option Partial) (b : UInt8) (rest : List UInt8) :
    piecesFrom state (b :: rest) = (step state b).1 ++ piecesFrom (step state b).2 rest := by
  cases state <;> rfl

end SocketCensus.Utf8
