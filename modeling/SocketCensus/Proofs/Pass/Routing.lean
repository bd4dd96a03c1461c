import Mathlib.Algebra.Group.Int.Defs
import SocketCensus.Proofs.Discovery.SocketTool
import SocketCensus.Proofs.Discovery.Tokens
import SocketCensus.Proofs.Entry.MapTool
import SocketCensus.Proofs.Pass.Course

/-!
What a pass does with the numbers of a listing. The value of a number settles where it goes, whatever
its spelling and however often it is written: with 32 bits it is updated under its own four bytes, with
up to 63 bits it is listed as one without a key, and beyond that it leaves no trace.
-/
namespace SocketCensus

namespace Pid

theorem distinct_congr {ps qs : List Pid} (h : ∀ p, p ∈ ps ↔ p ∈ qs) : distinct ps = distinct qs := by
  have hperm : (distinct ps).Perm (distinct qs) := by
    refine (List.perm_ext_iff_of_nodup (nodup_distinct ps) (nodup_distinct qs)).mpr ?_
    intro p
    rw [mem_distinct, mem_distinct, h]
  exact hperm.eq_of_pairwise (fun a b _ _ hab hba => absurd hab (Int.lt_asymm hba))
    (pairwise_distinct ps) (pairwise_distinct qs)

end Pid

namespace Key

/-- The four bytes of a number, lowest first, as numbers. -/
def places (v : Nat) : List Nat := [v % 256, v / 256 % 256, v / 65536 % 256, v / 16777216]

theorem toNat_encode {v : Nat} (hv : v < 2 ^ 32) :
    (LittleEndian.encode 4 v).map UInt8.toNat = places v := by
  simp [LittleEndian.encode, places]
  omega

theorem eq_of_places_eq {v w : Nat} (h : places v = places w) : v = w := by
  simp [places] at h
  omega

theorem fits_natCast_iff {v : Nat} : Fits (v : Pid) ↔ v < 2 ^ 32 := by
  show 0 ≤ (v : Int) ∧ (v : Int) < 4294967296 ↔ v < 2 ^ 32
  omega

theorem pid_ne_natCast (key : Key) {v : Nat} (hv : 2 ^ 32 ≤ v) : key.pid ≠ (v : Pid) := by
  intro heq
  have hfits : Fits (v : Pid) := (ofPid_eq_ok_iff.mp (heq ▸ ofPid_pid key)).1
  exact absurd (fits_natCast_iff.mp hfits) (Nat.not_lt.mpr hv)

end Key

def Summary.listed (s : Summary) : List Pid := s.inserted ++ s.failed.map Prod.fst

theorem Target.outcome_eq_outOfRange_iff {t : Target} {p : Pid} {e : OutOfRange} :
    t.outcome p = .error (.outOfRange e) ↔ ¬ Key.Fits p ∧ e = ⟨p⟩ := by
  rw [outcome_eq_error_iff]
  simp [update?_eq_error_iff_not_fits]

/-- Of numbers without a sign, those of 32 bits are updated, each under its four bytes. -/
theorem Target.map_updates_natCast (t : Target) (values : List Nat) :
    (((values.map Nat.cast).filterMap fun p : Pid => (t.update? p).toOption).map
        fun u => (u.mapPath, u.key.bytes.map UInt8.toNat, u.value.bytes)) =
      (values.filter fun v => decide (v < 2 ^ 32)).map
        fun v => (t.mapPath, Key.places v, List.replicate 16 0) := by
  let spell (call : String × List UInt8 × List UInt8) := (call.1, call.2.1.map UInt8.toNat, call.2.2)
  have hcalls := congrArg (List.map spell) (t.updates_eq_map (values.map Nat.cast))
  rw [List.filter_map, List.map_map, List.map_map, List.map_map] at hcalls
  refine hcalls.trans ?_
  simp only [Function.comp_def, Key.fits_natCast_iff]
  refine List.map_congr_left ?_
  intro v hv
  have hbound : v < 2 ^ 32 := of_decide_eq_true (List.mem_filter.mp hv).2
  show (t.mapPath, (LittleEndian.encode 4 v).map UInt8.toNat, _) = _
  rw [Key.toNat_encode hbound]

namespace Pass

open Marker

variable (pass : Pass) (course : Course) {source again : Traced (Except ToolError (List Pid))}
  {text : List Char} {s : Summary} {v : Nat}

theorem updates_along {ps : List Pid} (h : source.value = .ok ps) :
    (pass.along course source).updates =
      (course.order ps).filterMap fun p => (pass.target.update? p).toOption := by
  obtain ⟨schedule, hreport⟩ := pass.along_of_ok course h
  rw [hreport]
  exact pass.updates_writeAll schedule

/-- On one course, what is found decides the pass, however it is found. -/
theorem along_of_value_eq (h : again.value = source.value) :
    (pass.along course again).result = (pass.along course source).result ∧
      (pass.along course again).updates = (pass.along course source).updates ∧
      (pass.along course again).moves = (pass.along course source).moves := by
  unfold along reconcileBy
  dsimp only
  rw [h]
  split <;> exact ⟨rfl, rfl, rfl⟩

theorem updates_perm_numbers
    (h : source.value = .ok (Pid.distinct (pids (Text.lines text)))) :
    ((pass.along course source).updates.map
        fun u => (u.mapPath, u.key.bytes.map UInt8.toNat, u.value.bytes)).Perm
      (((numbers text).filter fun v => decide (v < 2 ^ 32)).map
        fun v => (pass.target.mapPath, Key.places v, List.replicate 16 0)) := by
  rw [updates_along pass course h, ← Target.map_updates_natCast, map_cast_numbers]
  exact ((course.order_perm _).filterMap _).map _

theorem count_places (h : source.value = .ok (Pid.distinct (pids (Text.lines text))))
    (hwrites : Writes text v) (hv : v < 2 ^ 32) :
    ((pass.along course source).updates.map fun u => u.key.bytes.map UInt8.toNat).count
      (Key.places v) = 1 := by
  have hkeys := (pass.updates_perm_numbers course h).map fun call => call.2.1
  rw [List.map_map, List.map_map] at hkeys
  have honce : (((numbers text).filter fun v => decide (v < 2 ^ 32)).map Key.places).Nodup :=
    ((nodup_numbers text).filter _).map fun _ _ => Key.eq_of_places_eq
  have hmem : v ∈ (numbers text).filter fun v => decide (v < 2 ^ 32) :=
    List.mem_filter.mpr ⟨mem_numbers_iff.mpr ⟨hwrites, by omega⟩, decide_eq_true hv⟩
  exact (hkeys.count_eq _).trans (List.count_eq_one_of_mem honce (List.mem_map_of_mem hmem))

section Listed

variable (hs : s.Accounts pass.target (Pid.distinct (pids (Text.lines text))))

include hs

theorem listed_perm_numbers :
    s.listed.Perm ((numbers text).map Nat.cast) := by
  rw [map_cast_numbers]
  exact hs.listed_perm (Pid.nodup_distinct _)

theorem mem_listed_iff {p : Pid} : p ∈ s.listed ↔
    ∃ v : Nat, Writes text v ∧ v < 2 ^ 63 ∧ p = v := by
  rw [(pass.listed_perm_numbers hs).mem_iff, map_cast_numbers, mem_distinct_iff]

theorem count_listed (hwrites : Writes text v) (hv : v < 2 ^ 63) :
    s.listed.count (v : Pid) = 1 := by
  rw [(pass.listed_perm_numbers hs).count_eq, map_cast_numbers]
  exact List.count_eq_one_of_mem (Pid.nodup_distinct _) (mem_distinct_iff.mpr ⟨v, hwrites, hv, rfl⟩)

/-- Without a key are the numbers between 32 and 63 bits. -/
theorem mem_failed_outOfRange_iff {p : Pid} {e : OutOfRange} : (p, .outOfRange e) ∈ s.failed ↔
    e = ⟨p⟩ ∧ ∃ v : Nat, Writes text v ∧ 2 ^ 32 ≤ v ∧ v < 2 ^ 63 ∧ p = v := by
  rw [hs.mem_failed, mem_distinct_iff, Target.outcome_eq_outOfRange_iff]
  constructor
  · intro h
    obtain ⟨⟨v, hwrites, hfits, rfl⟩, hkey, rfl⟩ := h
    rw [Key.fits_natCast_iff, Nat.not_lt] at hkey
    exact ⟨rfl, v, hwrites, hkey, hfits, rfl⟩
  · intro h
    obtain ⟨rfl, v, hwrites, hkey, hfits, rfl⟩ := h
    refine ⟨⟨v, hwrites, hfits, rfl⟩, ?_, rfl⟩
    rw [Key.fits_natCast_iff, Nat.not_lt]
    exact hkey

theorem count_outOfRange (hwrites : Writes text v) (hkey : 2 ^ 32 ≤ v) (hv : v < 2 ^ 63) :
    s.failed.count ((v : Pid), .outOfRange ⟨v⟩) = 1 ∧ (v : Pid) ∉ s.inserted := by
  have hfailed : ((v : Pid), WriteError.outOfRange ⟨v⟩) ∈ s.failed :=
    (pass.mem_failed_outOfRange_iff hs).mpr ⟨rfl, v, hwrites, hkey, hv, rfl⟩
  refine ⟨List.count_eq_one_of_mem hs.nodup_failed hfailed, ?_⟩
  intro hinserted
  exact hs.disjoint hinserted (List.mem_map_of_mem hfailed)

end Listed

/-- The numbers that a text writes, each routed by its value: with 32 bits it is updated under its four
bytes, with up to 63 bits it is listed as one without a key, and beyond that it leaves no trace. -/
structure RoutedByValue (mapPath : String) (text : List Char) (updates : List Update) (s : Summary) :
    Prop where
  updated : ∀ v : Nat, Writes text v → v < 2 ^ 32 → s.listed.count (v : Pid) = 1 ∧
    (updates.map fun u => u.key.bytes.map UInt8.toNat).count (Key.places v) = 1
  keyless : ∀ v : Nat, Writes text v → 2 ^ 32 ≤ v → v < 2 ^ 63 → s.listed.count (v : Pid) = 1 ∧
    s.failed.count ((v : Pid), .outOfRange ⟨v⟩) = 1 ∧ (v : Pid) ∉ s.inserted
  traceless : ∀ v : Nat, Writes text v → 2 ^ 63 ≤ v → (v : Pid) ∉ s.listed
  no_alias : ∀ v : Nat, Writes text v → 2 ^ 32 ≤ v → ∀ u ∈ updates, u.key.pid ≠ (v : Pid)
  nothing_else : ∃ values : List Nat, values.Nodup ∧
    (∀ v, v ∈ values ↔ Writes text v ∧ v < 2 ^ 63) ∧
    s.discovered = values.length ∧ s.listed.Perm (values.map Nat.cast) ∧
    (updates.map fun u => (u.mapPath, u.key.bytes.map UInt8.toNat, u.value.bytes)).Perm
      ((values.filter fun v => decide (v < 2 ^ 32)).map
        fun v => (mapPath, Key.places v, List.replicate 16 0))
  outOfRange_iff : ∀ p e, (p, .outOfRange e) ∈ s.failed ↔
    e = ⟨p⟩ ∧ ∃ v : Nat, Writes text v ∧ 2 ^ 32 ≤ v ∧ v < 2 ^ 63 ∧ p = v
  nonneg : ∀ p ∈ s.listed, 0 ≤ p

theorem routedByValue_along (h : source.value = .ok (Pid.distinct (pids (Text.lines text))))
    (hs : s.Accounts pass.target (Pid.distinct (pids (Text.lines text)))) :
    RoutedByValue pass.target.mapPath text (pass.along course source).updates s where
  updated v hwrites hv :=
    ⟨pass.count_listed hs hwrites (by omega), pass.count_places course h hwrites hv⟩
  keyless v hwrites hkey hv :=
    ⟨pass.count_listed hs hwrites hv, pass.count_outOfRange hs hwrites hkey hv⟩
  traceless v hwrites hlarge hmem := by
    obtain ⟨w, -, hw, heq⟩ := (pass.mem_listed_iff hs).mp hmem
    have hsame : v = w := Int.ofNat_inj.mp heq
    omega
  no_alias v hwrites hkey u _ := u.key.pid_ne_natCast hkey
  nothing_else := by
    refine ⟨numbers text, nodup_numbers text, fun v => mem_numbers_iff, ?_,
      pass.listed_perm_numbers hs, pass.updates_perm_numbers course h⟩
    rw [hs.discovered, ← map_cast_numbers, List.length_map]
  outOfRange_iff p e := pass.mem_failed_outOfRange_iff hs
  nonneg p hp := by
    obtain ⟨v, -, -, rfl⟩ := (pass.mem_listed_iff hs).mp hp
    exact Int.natCast_nonneg v

/-- The value of a number in a listing settles what a pass does with it, however it is spelled and
however often. Numbers of more than 63 bits might as well be missing: listings that agree on the others
lead to the same pass. -/
theorem numbers_routed_by_value
    (h : source.value = .ok (Pid.distinct (pids (Text.lines text)))) :
    let report := pass.along course source
    ∃ s, report.result = .ok s ∧
      RoutedByValue pass.target.mapPath text report.updates s ∧
      ∀ (other : List Char) (again : Traced (Except ToolError (List Pid))),
        again.value = .ok (Pid.distinct (pids (Text.lines other))) →
        (∀ v, v < 2 ^ 63 → (Writes other v ↔ Writes text v)) →
        (pass.along course again).result = report.result ∧
          (pass.along course again).updates = report.updates ∧
          (pass.along course again).moves = report.moves := by
  intro report
  obtain ⟨s, hresult, hs⟩ := pass.result_along course (Pid.nodup_distinct _) h
  refine ⟨s, hresult, pass.routedByValue_along course h hs, ?_⟩
  intro other again hagain hsame
  refine pass.along_of_value_eq course ?_
  rw [hagain, h]
  refine congrArg Except.ok (Pid.distinct_congr ?_)
  intro p
  rw [mem_pids_lines_iff, mem_pids_lines_iff]
  refine exists_congr fun v => ?_
  constructor
  · intro hother
    obtain ⟨hwrites, hv, heq⟩ := hother
    exact ⟨(hsame v hv).mp hwrites, hv, heq⟩
  · intro htext
    obtain ⟨hwrites, hv, heq⟩ := htext
    exact ⟨(hsame v hv).mpr hwrites, hv, heq⟩

/-- Three spellings of seven, and two numbers that differ from it by a power of two only: one of 33 and
one of 64 bits. -/
theorem numbers_routed_by_value_around_seven :
    let bytes := fun (text : String) => text.toList.map fun c => UInt8.ofNat c.toNat
    let stdout := bytes "pid=7,pid=007 pid=4294967303,\npid=x pid=9223372036854775815\r\npid=0000000007"
    let machine : Machine := ⟨fun _ _ => .finished ⟨.ofExit 0, stdout, []⟩, fun program _ => program⟩
    let tool : SocketTool := ⟨"ss", ["-ptuna"], .ofMillis 20⟩
    let text := Utf8.decodeLossy stdout
    let pass : Pass := ⟨⟨"/map", fun _ _ => .silent (.ok ())⟩, 3⟩
    let report := pass.along Course.eager (tool.discover machine)
    (tool.discover machine).value = .ok (Pid.distinct (pids (Text.lines text))) ∧
      Writes text 7 ∧ Writes text (2 ^ 32 + 7) ∧ Writes text (2 ^ 63 + 7) ∧
      (report.updates.map fun u => u.key.bytes.map UInt8.toNat).count [7, 0, 0, 0] = 1 ∧
      ∃ s, report.result = .ok s ∧ (s.inserted ++ s.failed.map Prod.fst).count 7 = 1 ∧
        s.failed.count (2 ^ 32 + 7, .outOfRange ⟨2 ^ 32 + 7⟩) = 1 ∧
        2 ^ 63 + 7 ∉ s.inserted ++ s.failed.map Prod.fst := by
  intro bytes stdout machine tool text pass report
  have hsource : (tool.discover machine).value = .ok (Pid.distinct (pids (Text.lines text))) :=
    SocketTool.discover_eq_ok_iff.mpr ⟨_, rfl, rfl, rfl⟩
  have hwrites (line digits : String) (hline : line.toList ∈ Text.lines text)
      (hsegment : marker ++ digits.toList ∈ segments line.toList) (hne : digits.toList ≠ [])
      (hdigits : digits.toList.all Decimal.isDigit = true) :
      Writes text (Decimal.value digits.toList) :=
    ⟨_, isToken_of_segment hline hsegment, hne, hdigits, rfl⟩
  have hseven : Writes text 7 := hwrites "pid=7,pid=007 pid=4294967303," "007"
    (by decide +kernel) (by decide +kernel) (by decide) (by decide)
  have hlonger : Writes text (2 ^ 32 + 7) := hwrites "pid=7,pid=007 pid=4294967303," "4294967303"
    (by decide +kernel) (by decide +kernel) (by decide) (by decide)
  have hlongest : Writes text (2 ^ 63 + 7) :=
    hwrites "pid=x pid=9223372036854775815" "9223372036854775815"
      (by decide +kernel) (by decide +kernel) (by decide) (by decide)
  obtain ⟨s, hresult, hnumbers, -⟩ := pass.numbers_routed_by_value Course.eager hsource
  obtain ⟨hlisted, hkeys⟩ := hnumbers.updated 7 hseven (by decide)
  obtain ⟨-, hfailed, -⟩ := hnumbers.keyless _ hlonger (by decide) (by decide)
  exact ⟨hsource, hseven, hlonger, hlongest, hkeys, s, hresult, hlisted, hfailed,
    hnumbers.traceless _ hlongest (by decide)⟩

end Pass

end SocketCensus
