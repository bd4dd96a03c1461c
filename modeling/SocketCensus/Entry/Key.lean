import SocketCensus.Bytes.LittleEndian
import SocketCensus.Pid

/-!
Keys of the traffic map. A key holds the process number in four bytes, lowest byte first, so
exactly the numbers below `2 ^ 32` have one.
-/
namespace SocketCensus

/-- The four bytes under which the traffic of one process is counted. -/
structure Key where
  bytes : List UInt8
  length_bytes : bytes.length = 4
  deriving DecidableEq

structure OutOfRange where
  pid : Pid
  deriving DecidableEq, Repr

def OutOfRange.message (e : OutOfRange) : String :=
  s!"PID {e.pid} does not fit into an unsigned 32-bit map key"

namespace Key

def Fits (p : Pid) : Prop := 0 ≤ p ∧ p < 4294967296

instance (p : Pid) : Decidable (Fits p) := inferInstanceAs (Decidable (_ ∧ _))

def ofPid (p : Pid) : Except OutOfRange Key :=
  if Fits p then .ok ⟨LittleEndian.encode 4 p.toNat, LittleEndian.length_encode 4 _⟩
  else .error ⟨p⟩

def pid (k : Key) : Pid := LittleEndian.decode k.bytes

/-- Keys are ordered by their first differing byte. -/
def rank (k : Key) : Nat := LittleEndian.decode k.bytes.reverse

theorem eq_of_bytes_eq {a b : Key} (h : a.bytes = b.bytes) : a = b := by
  cases a
  cases b
  simpa using h

/-- Exactly the numbers of 32 bits have a key, and a key determines its process. -/
theorem ofPid_eq_ok_iff {p : Pid} {key : Key} :
    ofPid p = .ok key ↔ Fits p ∧ key.bytes = LittleEndian.encode 4 p.toNat := by
  unfold ofPid
  split
  · rename_i hfits
    constructor
    · intro h
      cases h
      exact ⟨hfits, rfl⟩
    · intro h
      exact congrArg Except.ok (eq_of_bytes_eq h.2.symm)
  · rename_i hfits
    simp [hfits]

theorem ofPid_eq_error_iff {p : Pid} {e : OutOfRange} :
    ofPid p = .error e ↔ ¬ Fits p ∧ e = ⟨p⟩ := by
  unfold ofPid
  split
  · simp [*]
  · simp [*, eq_comm]

theorem pid_of_ofPid {p : Pid} {key : Key} (h : ofPid p = .ok key) : key.pid = p := by
  obtain ⟨⟨hlow, hhigh⟩, hbytes⟩ := ofPid_eq_ok_iff.mp h
  have hmod : p.toNat % Nat.pow 256 4 = p.toNat :=
    Nat.mod_eq_of_lt ((Int.toNat_lt hlow).mpr hhigh)
  rw [pid, hbytes, LittleEndian.decode_encode, hmod]
  exact Int.toNat_of_nonneg hlow

theorem ofPid_pid (key : Key) : ofPid key.pid = .ok key := by
  have hlt : LittleEndian.decode key.bytes < Nat.pow 256 4 := by
    simpa only [key.length_bytes] using LittleEndian.decode_lt key.bytes
  have hbytes : key.bytes = LittleEndian.encode 4 (LittleEndian.decode key.bytes) := by
    have hround := LittleEndian.encode_decode key.bytes
    rw [key.length_bytes] at hround
    exact hround.symm
  exact ofPid_eq_ok_iff.mpr ⟨⟨Int.natCast_nonneg _, Int.ofNat_lt.mpr hlt⟩, hbytes⟩

theorem ofPid_eq_ok_iff_pid {p : Pid} {key : Key} : ofPid p = .ok key ↔ key.pid = p :=
  ⟨pid_of_ofPid, fun h => h ▸ ofPid_pid key⟩

theorem eq_of_rank_eq {a b : Key} (h : a.rank = b.rank) : a = b := by
  apply eq_of_bytes_eq
  have hlen : a.bytes.reverse.length = b.bytes.reverse.length := by
    simp [a.length_bytes, b.length_bytes]
  exact List.reverse_inj.mp (LittleEndian.eq_of_decode_eq hlen h)

end Key
end SocketCensus
