import Mathlib.Algebra.Group.Nat.Defs
import SocketCensus.Proofs.Pass.Progress
import SocketCensus.Proofs.Settings.Layers
import SocketCensus.Proofs.Settings.Line

/-!
Settings that are integers. An integer may be given as a number or as its decimal text, and the two are
read alike. What is kept of it are its 64 bits without a sign, so that every negative number becomes a
large one; of the time limit, zero alone is refused.
-/
namespace SocketCensus.Settings

variable {n : Int} {c : Char} {t : Traversal} {files : Files} {env : Environment} {path : String}
  {required : Bool} {fields : Fields} {raw : Node}

/-- A raw value that gives an integer, as a number or in its decimal text. -/
inductive Tells (n : Int) : Node → Prop
  | number (origin : Option String) : Tells n (.scalar origin (.integer n))
  | text (origin : Option String) : Tells n (.scalar origin (.text (toString n)))

theorem toLower_of_mem_toString (hc : c ∈ (toString n).toList) : c.toLower = c := by
  rcases Decimal.hyphen_or_isDigit_of_mem_toString hc with rfl | hdigit
  · rfl
  · simp only [Char.isDigit, Bool.and_eq_true, decide_eq_true_eq] at hdigit
    exact dif_neg fun hupper => absurd (UInt32.le_trans hupper.1 hdigit.2) (by decide)

theorem lower_toString (n : Int) : lower (toString n) = toString n := by
  rw [lower, List.map_congr_left fun _ => toLower_of_mem_toString, List.map_id', String.ofList_toList]

/-- The text of an integer is no truth word, so that it is read as a number. -/
theorem textInt?_toString (hlow : -2 ^ 63 ≤ n) (hhigh : n < 2 ^ 63) : textInt? (toString n) = some n := by
  have hletter : ∀ word ∈ trueWords ++ falseWords, 'e' ∈ word.toList ∨ 'o' ∈ word.toList := by decide
  have hnone : toString n ∉ trueWords ++ falseWords := by
    intro hmem
    rcases hletter _ hmem with h | h
    · exact Decimal.not_mem_toString (by decide) (by decide) h
    · exact Decimal.not_mem_toString (by decide) (by decide) h
  rw [List.mem_append, not_or] at hnone
  have htrue : trueWords.contains (toString n) = false := by simpa using hnone.1
  have hfalse : falseWords.contains (toString n) = false := by simpa using hnone.2
  rw [textInt?, lower_toString, htrue, hfalse, Decimal.readSigned_toString hlow hhigh]
  rfl

def unsigned (n : Int) : Int := if 0 ≤ n then n else n + 2 ^ 64

theorem toNat_emod_wordCount (hlow : -2 ^ 63 ≤ n) (hhigh : n < 2 ^ 63) :
    ((n % wordCount).toNat : Int) = unsigned n := by
  have hcount : wordCount = 18446744073709551616 := rfl
  rw [hcount, unsigned]
  split <;> omega

/-- An integer is kept by its bits, whichever way it is given. -/
theorem readSetting_of_tells {key : String} (hkey : ¬ (key = bpftoolPathKey ∨ key = ssPathKey))
    (h : Tells n (rawSetting raw key)) (hlow : -2 ^ 63 ≤ n) (hhigh : n < 2 ^ 63) :
    ∃ count : Nat, readSetting raw key = .ok (.count count) ∧ (count : Int) = unsigned n := by
  refine ⟨(n % wordCount).toNat, ?_, toNat_emod_wordCount hlow hhigh⟩
  rw [readSetting, if_neg hkey]
  generalize rawSetting raw key = node at h ⊢
  have hvalue : toInt? node = some n := by
    cases h with
    | number origin => rfl
    | text origin => exact textInt?_toString hlow hhigh
  rw [readCount, hvalue]
  rfl

/-- A variable with the text of an integer gives it, and so does the entry of a file that no variable
covers. -/
theorem Layered.tells {entries : List (String × Scalar)} (h : Layered files env path required entries)
    (hfile : fileFields files path required = .ok fields) (hraw : rawTable? t fields env = some raw)
    {key : String} (hwritten : env.value? key = some (toString n) ∨
      env.value? key = none ∧ entries.lookup key = some (.integer n)) :
    Tells n (rawSetting raw key) := by
  obtain ⟨own, ownRaw, hown, hownRaw, hvalues⟩ := h.rawSetting_eq t
  obtain rfl : own = fields := Except.ok.inj (hown.symm.trans hfile)
  obtain rfl : ownRaw = raw := Option.some.inj (hownRaw.symm.trans hraw)
  obtain ⟨origin, hvalue⟩ := hvalues key
  rw [hvalue, effective]
  rcases hwritten with hvariable | ⟨hnone, hentry⟩
  · rw [hvariable]
    exact .text origin
  · rw [hnone, hentry]
    exact .number origin

/-- A setting that can be converted, and a time limit that is not zero either. -/
def Acceptable (raw : Node) (key : String) : Prop :=
  ∃ v, readSetting raw key = .ok v ∧ (key = commandTimeoutKey → v ≠ .count 0)

def OthersAcceptable (raw : Node) (key : String) : Prop :=
  ∀ other ∈ keys, other ≠ key → Acceptable raw other

section Loads

variable (hfile : fileFields files path required = .ok fields) (hraw : rawTable? t fields env = some raw)

include hfile hraw

theorem readSetting_of_load {s : Settings} (hs : load t files env path required = .ok s) :
    ∀ key ∈ keys, readSetting raw key = .ok (s.setting key) := by
  obtain ⟨own, hown, ownRaw, hownRaw, hconvert, -⟩ := load_eq_ok_iff.mp hs
  obtain rfl : own = fields := Except.ok.inj (hown.symm.trans hfile)
  obtain rfl : ownRaw = raw := Option.some.inj (hownRaw.symm.trans hraw)
  exact convert_eq_ok_iff.mp hconvert

theorem exists_load_iff :
    (∃ s, load t files env path required = .ok s) ↔ ∀ key ∈ keys, Acceptable raw key := by
  simp only [load_eq_ok_iff, hfile, hraw, Except.ok.injEq, Option.some.injEq, exists_eq_left']
  constructor
  · intro h key hkey
    obtain ⟨s, hconvert, hzero⟩ := h
    refine ⟨_, convert_eq_ok_iff.mp hconvert key hkey, ?_⟩
    rintro rfl hcount
    exact hzero (Setting.count.inj hcount)
  · intro h
    obtain ⟨s, hs⟩ := (exists_convert_iff (t := t)).mpr fun key hkey => (h key hkey).imp fun _ hv => hv.1
    obtain ⟨v, hv, hne⟩ := h commandTimeoutKey (by decide)
    have hsame := Except.ok.inj (hv.symm.trans (convert_eq_ok_iff.mp hs commandTimeoutKey (by decide)))
    refine ⟨s, hs, fun hzero => hne rfl ?_⟩
    rw [hsame, ← hzero]
    rfl

theorem exists_load_iff_of_others {key : String} (hkey : key ∈ keys)
    (hothers : OthersAcceptable raw key) :
    (∃ s, load t files env path required = .ok s) ↔ Acceptable raw key := by
  rw [exists_load_iff hfile hraw]
  constructor
  · intro h
    exact h key hkey
  · intro h other hother
    by_cases hsame : other = key
    · exact hsame ▸ h
    · exact hothers other hother hsame

theorem load_of_zero (hzero : readSetting raw commandTimeoutKey = .ok (.count 0))
    (hothers : OthersAcceptable raw commandTimeoutKey) :
    load t files env path required = .error (.refused .zeroTimeout) := by
  obtain ⟨s, hs⟩ : ∃ s, convert t raw = .ok s := by
    refine exists_convert_iff.mpr fun key hkey => ?_
    by_cases hsame : key = commandTimeoutKey
    · exact ⟨_, hsame ▸ hzero⟩
    · exact (hothers key hkey hsame).imp fun _ hv => hv.1
  have hcount : Setting.count s.commandTimeoutMs = .count 0 := Except.ok.inj <|
    (convert_eq_ok_iff.mp hs commandTimeoutKey (by decide)).symm.trans hzero
  simp [load, hfile, hraw, hs, Setting.count.inj hcount]

end Loads

/-- What becomes of an integer as a time limit: it is refused if it is zero, and else it counts in
milliseconds without its sign. -/
structure TimeLimitKept (n : Int) (loaded : Except LoadFailure Settings) : Prop where
  accepted_iff : (∃ s, loaded = .ok s) ↔ n ≠ 0
  refused : n = 0 → loaded = .error (.refused .zeroTimeout)
  nanoseconds : ∀ s, loaded = .ok s → (s.timeout.nanoseconds : Int) = 1000000 * unsigned n

theorem timeLimitKept_of_tells (hlow : -2 ^ 63 ≤ n) (hhigh : n < 2 ^ 63)
    (hfile : fileFields files path required = .ok fields) (hraw : rawTable? t fields env = some raw)
    (htells : Tells n (rawSetting raw commandTimeoutKey))
    (hothers : OthersAcceptable raw commandTimeoutKey) :
    TimeLimitKept n (load t files env path required) := by
  obtain ⟨count, hread, hcount⟩ := readSetting_of_tells (by decide) htells hlow hhigh
  have hzero : count ≠ 0 ↔ n ≠ 0 := by
    unfold unsigned at hcount
    split at hcount <;> omega
  refine ⟨?_, ?_, ?_⟩
  · rw [exists_load_iff_of_others hfile hraw (by decide) hothers, Acceptable, ← hzero]
    simp [hread]
  · intro hn
    have hnone : count = 0 := by
      by_contra hcount
      exact hzero.mp hcount hn
    exact load_of_zero hfile hraw (hnone ▸ hread) hothers
  · intro s hs
    have hsetting := readSetting_of_load hfile hraw hs commandTimeoutKey (by decide)
    have hsame : s.commandTimeoutMs = count :=
      Setting.count.inj (Except.ok.inj (hsetting.symm.trans hread))
    have hnanoseconds : s.timeout.nanoseconds = count * 1000000 := by
      rw [← hsame]
      rfl
    omega

theorem load_of_concurrency (hlow : -2 ^ 63 ≤ n) (hhigh : n < 2 ^ 63)
    (hfile : fileFields files path required = .ok fields) (hraw : rawTable? t fields env = some raw)
    (htells : Tells n (rawSetting raw writeConcurrencyKey))
    (hothers : OthersAcceptable raw writeConcurrencyKey) :
    ∃ s, load t files env path required = .ok s ∧ (s.writeConcurrency : Int) = unsigned n := by
  obtain ⟨count, hread, hcount⟩ := readSetting_of_tells (by decide) htells hlow hhigh
  have hacceptable : Acceptable raw writeConcurrencyKey := ⟨_, hread, fun hkey => absurd hkey (by decide)⟩
  obtain ⟨s, hs⟩ := (exists_load_iff_of_others hfile hraw (by decide) hothers).mpr hacceptable
  have hsetting := readSetting_of_load hfile hraw hs writeConcurrencyKey (by decide)
  have hsame : s.writeConcurrency = count :=
    Setting.count.inj (Except.ok.inj (hsetting.symm.trans hread))
  exact ⟨s, hs, hsame ▸ hcount⟩

/-- There are no more processes with a key than there are keys. -/
theorem length_filter_fits_le {ps : List Pid} (hset : ps.Nodup) :
    (ps.filter fun p => decide (Key.Fits p)).length ≤ 2 ^ 32 := by
  have hfits : ∀ p ∈ ps.filter fun p => decide (Key.Fits p), Key.Fits p := by
    intro p hp
    exact of_decide_eq_true (List.mem_filter.mp hp).2
  have hnumbers : ((ps.filter fun p => decide (Key.Fits p)).map Int.toNat).Nodup := by
    refine (hset.filter _).map_on ?_
    intro p hp q hq heq
    rw [← Int.toNat_of_nonneg (hfits p hp).1, heq, Int.toNat_of_nonneg (hfits q hq).1]
  have hsubset : (ps.filter fun p => decide (Key.Fits p)).map Int.toNat ⊆ List.range (2 ^ 32) := by
    intro m hm
    obtain ⟨p, hp, rfl⟩ := List.mem_map.mp hm
    exact List.mem_range.mpr ((Int.toNat_lt (hfits p hp).1).mpr (hfits p hp).2)
  have hlength := (hnumbers.subperm hsubset).length_le
  rwa [List.length_map, List.length_range] at hlength

/-- With room for every key there could be, all updates are in progress at once. -/
theorem peak_of_room (pass : Pass) (hroom : 2 ^ 32 ≤ pass.limit) {ps : List Pid} (hset : ps.Nodup) :
    Window.peak (Schedule.eager pass.limit_pos ps).steps =
      (ps.filter fun p => decide (Key.Fits p)).length := by
  rw [Schedule.peak_of_patient _ (Window.patient_eagerRun _ _ _)]
  exact Nat.min_eq_right (Nat.le_trans (length_filter_fits_le hset) hroom)

/-- What becomes of an integer as a number of writes: without its sign it limits how many updates are
in progress at once, and a negative one is no limit at all. -/
structure WritesKept (n : Int) (s : Settings) : Prop where
  count : (s.writeConcurrency : Int) = unsigned n
  bounded : ∀ (target : Target) (ps : List Pid) steps w,
    Window.Run (Pass.mk target s.writeConcurrency).limit (Window.opening ps) steps w →
      (w.updating.length : Int) ≤ max 1 (unsigned n) ∧ (w.running.length : Int) ≤ max 1 (unsigned n)
  unbounded : ∀ (target : Target) (ps : List Pid), n < 0 → ps.Nodup →
    Window.peak (Schedule.eager (Pass.mk target s.writeConcurrency).limit_pos ps).steps =
      (ps.filter fun p => decide (Key.Fits p)).length

theorem writesKept_of_count {s : Settings} (hlow : -2 ^ 63 ≤ n)
    (hcount : (s.writeConcurrency : Int) = unsigned n) : WritesKept n s where
  count := hcount
  bounded target ps steps w hrun := by
    have hlimit : ((Pass.mk target s.writeConcurrency).limit : Int) = max 1 (unsigned n) := by
      rw [← hcount]
      show ((max 1 s.writeConcurrency : Nat) : Int) = max 1 (s.writeConcurrency : Int)
      omega
    have hrunning : w.running.length ≤ (Pass.mk target s.writeConcurrency).limit :=
      Window.running_run hrun (by simp [Window.opening])
    have hupdating := Window.updating_le_running w
    omega
  unbounded target ps hn hset := by
    have hlarge : unsigned n = n + 2 ^ 64 := if_neg (by omega)
    have hlimit : s.writeConcurrency ≤ (Pass.mk target s.writeConcurrency).limit := Nat.le_max_right _ _
    exact peak_of_room _ (by omega) hset

/-- What is kept of an integer setting, given in a file or in the environment. -/
structure IntegersKept (n : Int) (t : Traversal) (files : Files) (env : Environment) (path : String)
    (required : Bool) (raw : Node) : Prop where
  written : ∀ key ∈ [commandTimeoutKey, writeConcurrencyKey],
    Toml.parse? s!"{key} = {n}\n".toList = some (.table [(key, .integer n)])
  told : ∀ entries key, Layered files env path required entries →
    (env.value? key = some (toString n) ∨
      env.value? key = none ∧ entries.lookup key = some (.integer n)) →
    Tells n (rawSetting raw key)
  timeLimit : Tells n (rawSetting raw commandTimeoutKey) → OthersAcceptable raw commandTimeoutKey →
    TimeLimitKept n (load t files env path required)
  writes : Tells n (rawSetting raw writeConcurrencyKey) → OthersAcceptable raw writeConcurrencyKey →
    ∃ s, load t files env path required = .ok s ∧ WritesKept n s

/-- An integer setting is read alike from a file and from the environment, and is kept by its bits. A
time limit is refused if it is zero and for no other number, so that a negative one becomes a very long
one; and any number of writes at once is accepted, so that a negative one is no limit at all. -/
theorem integers_kept_by_bits (n : Int) (hlow : -2 ^ 63 ≤ n) (hhigh : n < 2 ^ 63) (t : Traversal)
    (files : Files) (env : Environment) (path : String) (required : Bool) (fields : Fields) (raw : Node)
    (hfile : fileFields files path required = .ok fields) (hraw : rawTable? t fields env = some raw) :
    IntegersKept n t files env path required raw where
  written key hkey := by
    have hplain : ∀ key ∈ [commandTimeoutKey, writeConcurrencyKey],
        key ≠ "" ∧ key.toList.all Toml.Token.isWordChar = true := by decide
    obtain ⟨hne, hchars⟩ := hplain key hkey
    exact Toml.parse?_line hne (List.all_eq_true.mp hchars) hlow hhigh
  told entries key h hwritten := h.tells hfile hraw hwritten
  timeLimit htells hothers := timeLimitKept_of_tells hlow hhigh hfile hraw htells hothers
  writes htells hothers := by
    obtain ⟨s, hs, hcount⟩ := load_of_concurrency hlow hhigh hfile hraw htells hothers
    exact ⟨s, hs, writesKept_of_count hlow hcount⟩

/-- A time limit of 250 ms, and a negative number of writes at once. -/
theorem integers_kept_by_bits_of_two :
    let env : Environment :=
      ⟨[("PIDTRACK_COMMAND_TIMEOUT_MS", "250"), ("pidtrack_write_concurrency", "-1")], true⟩
    ∃ s, load .asGiven (Folder.ofList []) env "census" false = .ok s ∧
      s.timeout.nanoseconds = 250000000 ∧ s.writeConcurrency = 18446744073709551615 := by
  intro env
  have hlayered : Layered (Folder.ofList []) env "census" false [] :=
    ⟨.absent rfl rfl, by decide, rfl, by decide +kernel, by decide +kernel, by decide +kernel⟩
  obtain ⟨fields, raw, hfile, hraw, -⟩ := hlayered.rawSetting_eq .asGiven
  have hload : load .asGiven (Folder.ofList []) env "census" false =
      .ok ⟨"/sbin/bpftool", "ss", 250, 18446744073709551615⟩ :=
    (hlayered.load_eq_ok_iff _).mpr (by decide +kernel)
  have hothers (key : String) : OthersAcceptable raw key :=
    fun other hother _ => (exists_load_iff hfile hraw).mp ⟨_, hload⟩ other hother
  have hlimit := integers_kept_by_bits 250 (by decide) (by decide) .asGiven _ env "census" false _ _
    hfile hraw
  have hwrites := integers_kept_by_bits (-1) (by decide) (by decide) .asGiven _ env "census" false _ _
    hfile hraw
  have hlimitTold := hlimit.told [] commandTimeoutKey hlayered (.inl (by decide +kernel))
  have hwritesTold := hwrites.told [] writeConcurrencyKey hlayered (.inl (by decide +kernel))
  obtain ⟨s, hs, hkept⟩ := hwrites.writes hwritesTold (hothers _)
  have hlong := (hlimit.timeLimit hlimitTold (hothers _)).nanoseconds s hs
  have hcount := hkept.count
  have htimes : unsigned 250 = 250 := rfl
  have hminus : unsigned (-1) = 18446744073709551615 := rfl
  exact ⟨s, hs, by omega, by omega⟩

/-- Minus one is accepted, both as a time limit, which is to be greater than zero, and as a number of
writes. -/
theorem negative_integers_accepted :
    let bytes := fun (line : String) => line.toList.map fun c => UInt8.ofNat c.toNat
    let files := fun (line : String) => (Folder.ofList [("pidtrack.toml", some (bytes line))] : Files)
    let env : Environment := ⟨[], true⟩
    (∀ t, load t (files "command_timeout_ms = -1\n") env "pidtrack.toml" true =
        .ok ⟨"/sbin/bpftool", "ss", 18446744073709551615, 1⟩) ∧
      (∀ t, load t (files "write_concurrency = -1\n") env "pidtrack.toml" true =
        .ok ⟨"/sbin/bpftool", "ss", 10000, 18446744073709551615⟩) ∧
      ¬ ∀ (n : Int) (t : Traversal) (files : Files) (env : Environment) (path : String)
        (required : Bool) (fields : Fields) (raw : Node), -2 ^ 63 ≤ n → n < 2 ^ 63 →
        fileFields files path required = .ok fields → rawTable? t fields env = some raw →
        (Tells n (rawSetting raw commandTimeoutKey) → OthersAcceptable raw commandTimeoutKey →
          ((∃ s, load t files env path required = .ok s) ↔ 1 ≤ n)) ∧
        (Tells n (rawSetting raw writeConcurrencyKey) → OthersAcceptable raw writeConcurrencyKey →
          ((∃ s, load t files env path required = .ok s) ↔ 0 ≤ n)) := by
  intro bytes files env
  have hlocated : File.locate? (files "command_timeout_ms = -1\n") "pidtrack.toml" =
      some ("pidtrack.toml", bytes "command_timeout_ms = -1\n") := by decide +kernel
  have htimeout : Layered (files "command_timeout_ms = -1\n") env "pidtrack.toml" true
      [(commandTimeoutKey, .integer (-1))] :=
    ⟨.document hlocated (by decide +kernel), by decide +kernel, rfl, by decide, by decide, by decide⟩
  have hlocated' : File.locate? (files "write_concurrency = -1\n") "pidtrack.toml" =
      some ("pidtrack.toml", bytes "write_concurrency = -1\n") := by decide +kernel
  have hconcurrency : Layered (files "write_concurrency = -1\n") env "pidtrack.toml" true
      [(writeConcurrencyKey, .integer (-1))] :=
    ⟨.document hlocated' (by decide +kernel), by decide +kernel, rfl, by decide, by decide, by decide⟩
  have hlong (t : Traversal) : load t (files "command_timeout_ms = -1\n") env "pidtrack.toml" true =
      .ok ⟨"/sbin/bpftool", "ss", 18446744073709551615, 1⟩ :=
    (htimeout.load_eq_ok_iff t).mpr (by decide +kernel)
  have hmany (t : Traversal) : load t (files "write_concurrency = -1\n") env "pidtrack.toml" true =
      .ok ⟨"/sbin/bpftool", "ss", 10000, 18446744073709551615⟩ :=
    (hconcurrency.load_eq_ok_iff t).mpr (by decide +kernel)
  refine ⟨hlong, hmany, ?_⟩
  intro hrefused
  obtain ⟨fields, raw, hfile, hraw, -⟩ := htimeout.rawSetting_eq .asGiven
  obtain ⟨hlimit, -⟩ := hrefused (-1) .asGiven _ env _ _ fields raw (by decide) (by decide) hfile hraw
  have htells : Tells (-1) (rawSetting raw commandTimeoutKey) :=
    htimeout.tells hfile hraw (.inr ⟨rfl, by decide⟩)
  have hothers : OthersAcceptable raw commandTimeoutKey :=
    fun other hother _ => (exists_load_iff hfile hraw).mp ⟨_, hlong _⟩ other hother
  exact absurd ((hlimit htells hothers).mp ⟨_, hlong _⟩) (by decide)

end SocketCensus.Settings
