/-!
Numbers as bytes, least significant byte first. A number below 256 to the power of the width
is read back from its bytes, and every list of bytes is the encoding of the number it stands for.
-/
namespace SocketCensus.LittleEndian

def encode : (width : Nat) → Nat → List UInt8
  | 0, _ => []
  | width + 1, n => UInt8.ofNat (n % 256) :: encode width (n / 256)

def decode : List UInt8 → Nat
  | [] => 0
  | b :: rest => b.toNat + 256 * decode rest

@[simp] theorem length_encode (width n : Nat) : (encode width n).length = width := by
  induction width generalizing n with
  | zero => rfl
  | succ width ih => simp [encode, ih]

theorem pow_succ (width : Nat) : Nat.pow 256 (width + 1) = 256 * Nat.pow 256 width := Nat.pow_succ'

theorem decode_encode (width n : Nat) : decode (encode width n) = n % Nat.pow 256 width := by
  induction width generalizing n with
  | zero => simp [encode, decode, Nat.mod_one]
  | succ width ih =>
    have hbyte : (UInt8.ofNat (n % 256)).toNat = n % 256 :=
      UInt8.toNat_ofNat_of_lt' (Nat.mod_lt n (by decide))
    rw [encode, decode, hbyte, ih, pow_succ, Nat.mod_mul]

theorem eq_of_decode_eq {a b : List UInt8} (hlen : a.length = b.length)
    (h : decode a = decode b) : a = b := by
  induction a generalizing b with
  | nil => exact (List.length_eq_zero_iff.mp hlen.symm).symm
  | cons x rest ih =>
    cases b with
    | nil => simp at hlen
    | cons y others =>
      have hx : x.toNat < 256 := x.toNat_lt
      have hy : y.toNat < 256 := y.toNat_lt
      simp only [decode] at h
      have hhead : x = y := UInt8.toNat_inj.mp (by omega)
      have htail : rest = others := ih (by simpa using hlen) (by omega)
      rw [hhead, htail]

theorem decode_lt (bytes : List UInt8) : decode bytes < Nat.pow 256 bytes.length := by
  induction bytes with
  | nil => simp [decode]
  | cons b rest ih =>
    have hb : b.toNat < 256 := b.toNat_lt
    rw [decode, List.length_cons, pow_succ]
    omega

theorem encode_decode (bytes : List UInt8) : encode bytes.length (decode bytes) = bytes := by
  apply eq_of_decode_eq (length_encode _ _)
  rw [decode_encode]
  exact Nat.mod_eq_of_lt (decode_lt bytes)

end SocketCensus.LittleEndian
