import Mathlib.Algebra.BigOperators.Fin
import Mathlib.Tactic.Ring
import SocketCensus.Entry.Counters
import SocketCensus.Entry.Key

/-!
The layout of an entry. Four bytes are the key of exactly one process, and sixteen bytes are the
counters of exactly one amount of traffic, so that nothing is lost when an entry is written and
nothing can be mistaken when it is read.
-/
namespace SocketCensus

/-- The byte at each place counts for a power of 256. -/
theorem LittleEndian.decode_eq_sum (bytes : List UInt8) :
    decode bytes = ∑ i : Fin bytes.length, bytes[i].toNat * 256 ^ i.val := by
  induction bytes with
  | nil => rfl
  | cons b rest ih =>
    have hshift : 256 * decode rest =
        ∑ i : Fin rest.length, rest[i].toNat * 256 ^ (i.val + 1) := by
      rw [ih, Finset.mul_sum]
      refine Finset.sum_congr rfl fun i _ => ?_
      ring
    show b.toNat + 256 * decode rest = ∑ i : Fin (rest.length + 1), (b :: rest)[i].toNat * 256 ^ i.val
    rw [Fin.sum_univ_succ, hshift]
    simp

namespace Key

theorem exists_ofPid_iff {p : Pid} : (∃ key, ofPid p = .ok key) ↔ Fits p := by
  constructor
  · intro h
    obtain ⟨key, hkey⟩ := h
    exact (ofPid_eq_ok_iff.mp hkey).1
  · intro h
    exact ⟨_, if_pos h⟩

theorem existsUnique_pid {bytes : List UInt8} (hlength : bytes.length = 4) :
    ∃! p : Pid, ∃ key, ofPid p = .ok key ∧ key.bytes = bytes := by
  let own : Key := ⟨bytes, hlength⟩
  refine ⟨own.pid, ⟨own, ofPid_pid own, rfl⟩, ?_⟩
  intro p hp
  obtain ⟨key, hkey, hbytes⟩ := hp
  have hsame : key = own := eq_of_bytes_eq hbytes
  rw [← pid_of_ofPid hkey, hsame]

end Key

namespace Counters

theorem eq_of_bytes_eq {a b : Counters} (h : a.bytes = b.bytes) : a = b := by
  cases a
  cases b
  simpa using h

theorem take_bytes_ofTraffic (t : Traffic) :
    (ofTraffic t).bytes.take 8 = LittleEndian.encode 8 t.received.toNat :=
  List.take_left' (LittleEndian.length_encode 8 _)

theorem drop_bytes_ofTraffic (t : Traffic) :
    (ofTraffic t).bytes.drop 8 = LittleEndian.encode 8 t.sent.toNat :=
  List.drop_left' (LittleEndian.length_encode 8 _)

theorem decode_encode_word (n : UInt64) :
    LittleEndian.decode (LittleEndian.encode 8 n.toNat) = n.toNat := by
  have hbound : n.toNat < Nat.pow 256 8 := n.toNat_lt
  rw [LittleEndian.decode_encode, Nat.mod_eq_of_lt hbound]

theorem encode_decode_word {bytes : List UInt8} (hlength : bytes.length = 8) :
    LittleEndian.encode 8 (UInt64.ofNat (LittleEndian.decode bytes)).toNat = bytes := by
  have hbound : LittleEndian.decode bytes < Nat.pow 256 8 := by
    simpa only [hlength] using LittleEndian.decode_lt bytes
  have hround := LittleEndian.encode_decode bytes
  rw [hlength] at hround
  rw [UInt64.toNat_ofNat_of_lt' hbound, hround]

theorem ofTraffic_traffic (c : Counters) : ofTraffic c.traffic = c := by
  have hreceived : (c.bytes.take 8).length = 8 := by simp [c.length_bytes]
  have hsent : (c.bytes.drop 8).length = 8 := by simp [c.length_bytes]
  apply eq_of_bytes_eq
  show LittleEndian.encode 8 c.traffic.received.toNat ++ LittleEndian.encode 8 c.traffic.sent.toNat =
    c.bytes
  rw [traffic, encode_decode_word hreceived, encode_decode_word hsent, List.take_append_drop]

theorem existsUnique_traffic {bytes : List UInt8} (hlength : bytes.length = 16) :
    ∃! t : Traffic, (ofTraffic t).bytes = bytes := by
  let own : Counters := ⟨bytes, hlength⟩
  refine ⟨own.traffic, congrArg Counters.bytes own.ofTraffic_traffic, ?_⟩
  intro t ht
  have hsame : ofTraffic t = own := eq_of_bytes_eq ht
  rw [← traffic_ofTraffic t, hsame]

theorem ofTraffic_eq_zero_iff {t : Traffic} :
    ofTraffic t = zero ↔ t.received = 0 ∧ t.sent = 0 := by
  constructor
  · intro h
    have htraffic := congrArg traffic h
    rw [zero, traffic_ofTraffic, traffic_ofTraffic] at htraffic
    rw [htraffic]
    exact ⟨rfl, rfl⟩
  · intro h
    obtain ⟨received, sent⟩ := t
    obtain ⟨rfl, rfl⟩ := h
    rfl

end Counters

/-- Exactly the numbers of 32 bits have a key, whose four bytes give the number back with the lowest
byte first; a number without one is named by its error. Every four bytes are the key of one process.
The first and the last eight bytes of counters give back the two parts of their traffic in the same
way, every sixteen bytes are the counters of one amount of traffic, and the zeroed counters are those
of no traffic. -/
theorem layout_bijective :
    (∀ bytes : List UInt8,
      LittleEndian.decode bytes = ∑ i : Fin bytes.length, bytes[i].toNat * 256 ^ i.val) ∧
    (∀ p : Pid, ((∃ key, Key.ofPid p = .ok key) ↔ 0 ≤ p ∧ p < 2 ^ 32) ∧
      (∀ e, Key.ofPid p = .error e ↔ ¬ (0 ≤ p ∧ p < 2 ^ 32) ∧ e.pid = p) ∧
      ∀ key, Key.ofPid p = .ok key → key.bytes.length = 4 ∧ (LittleEndian.decode key.bytes : Int) = p) ∧
    (∀ bytes : List UInt8, bytes.length = 4 →
      ∃! p : Pid, ∃ key, Key.ofPid p = .ok key ∧ key.bytes = bytes) ∧
    (∀ t : Traffic, (Counters.ofTraffic t).bytes.length = 16 ∧
      LittleEndian.decode ((Counters.ofTraffic t).bytes.take 8) = t.received.toNat ∧
      LittleEndian.decode ((Counters.ofTraffic t).bytes.drop 8) = t.sent.toNat) ∧
    (∀ bytes : List UInt8, bytes.length = 16 → ∃! t : Traffic, (Counters.ofTraffic t).bytes = bytes) ∧
    ∀ t : Traffic, Counters.ofTraffic t = Counters.zero ↔ t.received = 0 ∧ t.sent = 0 := by
  refine ⟨LittleEndian.decode_eq_sum, ?_, fun _ => Key.existsUnique_pid, ?_,
    fun _ => Counters.existsUnique_traffic, fun _ => Counters.ofTraffic_eq_zero_iff⟩
  · intro p
    refine ⟨Key.exists_ofPid_iff, ?_, ?_⟩
    · intro e
      rw [Key.ofPid_eq_error_iff]
      exact and_congr_right fun _ => by cases e; simp
    · intro key hkey
      exact ⟨key.length_bytes, Key.pid_of_ofPid hkey⟩
  · intro t
    refine ⟨(Counters.ofTraffic t).length_bytes, ?_, ?_⟩
    · rw [Counters.take_bytes_ofTraffic, Counters.decode_encode_word]
    · rw [Counters.drop_bytes_ofTraffic, Counters.decode_encode_word]

/-- A process whose key has two bytes that are not zero, the highest key, and counters of full words. -/
theorem layout_bijective_at_the_ends :
    let key : Key := ⟨[0xd2, 0x04, 0, 0], rfl⟩
    let full : List UInt8 := List.replicate 16 0xff
    Key.ofPid 1234 = .ok key ∧ (LittleEndian.decode key.bytes : Int) = 1234 ∧
      (∃! p : Pid, ∃ key, Key.ofPid p = .ok key ∧ key.bytes = [0xff, 0xff, 0xff, 0xff]) ∧
      ∃! t : Traffic, (Counters.ofTraffic t).bytes = full := by
  intro key full
  obtain ⟨-, hkeys, hbytes, -, hcounters, -⟩ := layout_bijective
  have hkey : Key.ofPid 1234 = .ok key := by decide
  exact ⟨hkey, ((hkeys 1234).2.2 key hkey).2, hbytes _ rfl, hcounters full rfl⟩

end SocketCensus
