import SocketCensus.Bytes.LittleEndian

/-!
Values of the traffic map. A value holds the bytes received and the bytes sent, each as a
64-bit number with the lowest byte first; the kernel adds to both and lets them wrap.
-/
namespace SocketCensus

structure Traffic where
  received : UInt64
  sent : UInt64
  deriving DecidableEq, Repr

def Traffic.none : Traffic := ⟨0, 0⟩

/-- Both sums wrap at `2 ^ 64`. -/
def Traffic.add (a b : Traffic) : Traffic := ⟨a.received + b.received, a.sent + b.sent⟩

structure Counters where
  bytes : List UInt8
  length_bytes : bytes.length = 16
  deriving DecidableEq

namespace Counters

def ofTraffic (t : Traffic) : Counters :=
  ⟨LittleEndian.encode 8 t.received.toNat ++ LittleEndian.encode 8 t.sent.toNat, by simp⟩

def traffic (c : Counters) : Traffic :=
  ⟨UInt64.ofNat (LittleEndian.decode (c.bytes.take 8)),
   UInt64.ofNat (LittleEndian.decode (c.bytes.drop 8))⟩

@[simp] theorem traffic_ofTraffic (t : Traffic) : (ofTraffic t).traffic = t := by
  have hword (n : UInt64) :
      UInt64.ofNat (LittleEndian.decode (LittleEndian.encode 8 n.toNat)) = n := by
    have hbound : n.toNat < Nat.pow 256 8 := n.toNat_lt
    rw [LittleEndian.decode_encode, Nat.mod_eq_of_lt hbound, UInt64.ofNat_toNat]
  simp [traffic, ofTraffic, hword]

/-- The value written for a newly found process. -/
def zero : Counters := ofTraffic Traffic.none

def count (c : Counters) (t : Traffic) : Counters := ofTraffic (c.traffic.add t)

theorem count_ofTraffic (t amount : Traffic) : (ofTraffic t).count amount = ofTraffic (t.add amount) := by
  rw [count, traffic_ofTraffic]

end Counters
end SocketCensus
