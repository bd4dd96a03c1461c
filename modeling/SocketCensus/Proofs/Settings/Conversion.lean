import Mathlib.Data.List.Basic
import SocketCensus.Proofs.Settings.Traversal
import SocketCensus.Settings.Load

/-!
The settings that raw values are converted to. Each setting is read from its own raw value, and there
are settings exactly if each of them can be read; otherwise the error is the fault of one of them. The
order in which they are read decides which one that is, and nothing else.
-/
namespace SocketCensus.Settings

variable {t : Traversal} {raw other : Node} {s : Settings} {key : String}

def setting (s : Settings) (key : String) : Setting :=
  if key = bpftoolPathKey then .text s.bpftoolPath
  else if key = ssPathKey then .text s.ssPath
  else if key = commandTimeoutKey then .count s.commandTimeoutMs
  else .count s.writeConcurrency

theorem forall_mem_keys_iff {P : String → Prop} : (∀ key ∈ keys, P key) ↔
    P bpftoolPathKey ∧ P ssPathKey ∧ P commandTimeoutKey ∧ P writeConcurrencyKey := by
  simp [keys]

theorem eq_of_setting_eq {others : Settings} (h : ∀ key ∈ keys, s.setting key = others.setting key) :
    s = others := by
  obtain ⟨hbpftool, hss, htimeout, hconcurrency⟩ := forall_mem_keys_iff.mp h
  obtain ⟨bpftoolPath, ssPath, timeout, concurrency⟩ := s
  obtain ⟨bpftoolPath', ssPath', timeout', concurrency'⟩ := others
  cases hbpftool
  cases hss
  cases htimeout
  cases hconcurrency
  rfl

theorem fault?_eq_none_iff : fault? raw key = none ↔ ∃ v, readSetting raw key = .ok v := by
  unfold fault?
  cases readSetting raw key <;> simp

theorem fault?_eq_some_iff {e : TypeError} :
    fault? raw key = some e ↔ readSetting raw key = .error e := by
  unfold fault?
  cases readSetting raw key <;> simp

theorem mem_arrange_keys : key ∈ arrange t.conversion keys ↔ key ∈ keys :=
  (arrange_perm t.conversion keys).mem_iff

theorem map_eq_ok_iff {ε α β : Type} {x : Except ε α} {f : α → β} {b : β} :
    x.map f = .ok b ↔ ∃ a, x = .ok a ∧ f a = b := by
  cases x <;> simp [Except.map]

/-- What is read under each key, as text or as number. -/
theorem read_iff : (∀ key ∈ keys, readSetting raw key = .ok (s.setting key)) ↔
    readText bpftoolPathKey (rawSetting raw bpftoolPathKey) = .ok s.bpftoolPath ∧
    readText ssPathKey (rawSetting raw ssPathKey) = .ok s.ssPath ∧
    readCount commandTimeoutKey (rawSetting raw commandTimeoutKey) = .ok s.commandTimeoutMs ∧
    readCount writeConcurrencyKey (rawSetting raw writeConcurrencyKey) = .ok s.writeConcurrency := by
  have hsettings : s.setting bpftoolPathKey = .text s.bpftoolPath ∧ s.setting ssPathKey = .text s.ssPath ∧
      s.setting commandTimeoutKey = .count s.commandTimeoutMs ∧
      s.setting writeConcurrencyKey = .count s.writeConcurrency := ⟨rfl, rfl, rfl, rfl⟩
  have hcount (key : String) (hkey : ¬ (key = bpftoolPathKey ∨ key = ssPathKey)) :
      readSetting raw key = (readCount key (rawSetting raw key)).map .count := if_neg hkey
  rw [forall_mem_keys_iff, hsettings.1, hsettings.2.1, hsettings.2.2.1, hsettings.2.2.2,
    hcount commandTimeoutKey (by decide), hcount writeConcurrencyKey (by decide), readSetting,
    if_pos (.inl rfl), readSetting, if_pos (.inr rfl)]
  simp [map_eq_ok_iff]

theorem convert_of_read (t : Traversal) (h : ∀ key ∈ keys, ∃ v, readSetting raw key = .ok v) :
    ∃ s, convert t raw = .ok s ∧ ∀ key ∈ keys, readSetting raw key = .ok (s.setting key) := by
  have hnone : (arrange t.conversion keys).findSome? (fault? raw) = none :=
    List.findSome?_eq_none_iff.mpr fun key hkey => fault?_eq_none_iff.mpr (h key (mem_arrange_keys.mp hkey))
  have htext (key : String) (hkey : key ∈ keys) (hpath : key = bpftoolPathKey ∨ key = ssPathKey) :
      ∃ value, readText key (rawSetting raw key) = .ok value := by
    obtain ⟨v, hv⟩ := h key hkey
    rw [readSetting, if_pos hpath] at hv
    obtain ⟨value, hvalue, -⟩ := map_eq_ok_iff.mp hv
    exact ⟨value, hvalue⟩
  have hcount (key : String) (hkey : key ∈ keys) (hpath : ¬ (key = bpftoolPathKey ∨ key = ssPathKey)) :
      ∃ count, readCount key (rawSetting raw key) = .ok count := by
    obtain ⟨v, hv⟩ := h key hkey
    rw [readSetting, if_neg hpath] at hv
    obtain ⟨count, hvalue, -⟩ := map_eq_ok_iff.mp hv
    exact ⟨count, hvalue⟩
  obtain ⟨bpftoolPath, hbpftool⟩ := htext bpftoolPathKey (by decide) (.inl rfl)
  obtain ⟨ssPath, hss⟩ := htext ssPathKey (by decide) (.inr rfl)
  obtain ⟨timeout, htimeout⟩ := hcount commandTimeoutKey (by decide) (by decide)
  obtain ⟨concurrency, hconcurrency⟩ := hcount writeConcurrencyKey (by decide) (by decide)
  refine ⟨⟨bpftoolPath, ssPath, timeout, concurrency⟩, ?_,
    read_iff.mpr ⟨hbpftool, hss, htimeout, hconcurrency⟩⟩
  rw [convert, hnone, hbpftool, hss, htimeout, hconcurrency]
  rfl

theorem of_convert_eq_error {e : TypeError} (h : convert t raw = .error e) :
    ∃ key ∈ keys, readSetting raw key = .error e := by
  cases hfault : (arrange t.conversion keys).findSome? (fault? raw) with
  | some own =>
    rw [convert, hfault] at h
    cases h
    obtain ⟨key, hkey, hread⟩ := List.exists_of_findSome?_eq_some hfault
    exact ⟨key, mem_arrange_keys.mp hkey, fault?_eq_some_iff.mp hread⟩
  | none =>
    have hall := List.findSome?_eq_none_iff.mp hfault
    obtain ⟨s, hs, -⟩ := convert_of_read t fun key hkey =>
      fault?_eq_none_iff.mp (hall key (mem_arrange_keys.mpr hkey))
    rw [h] at hs
    contradiction

theorem convert_eq_ok_iff :
    convert t raw = .ok s ↔ ∀ key ∈ keys, readSetting raw key = .ok (s.setting key) := by
  constructor
  · intro h
    have hread (key : String) (hkey : key ∈ keys) : ∃ v, readSetting raw key = .ok v := by
      rw [← fault?_eq_none_iff]
      cases hfault : (arrange t.conversion keys).findSome? (fault? raw) with
      | some e =>
        rw [convert, hfault] at h
        contradiction
      | none => exact List.findSome?_eq_none_iff.mp hfault key (mem_arrange_keys.mpr hkey)
    obtain ⟨own, hown, hsettings⟩ := convert_of_read t hread
    obtain rfl : own = s := Except.ok.inj (hown.symm.trans h)
    exact hsettings
  · intro h
    obtain ⟨own, hown, hsettings⟩ := convert_of_read t fun key hkey => ⟨_, h key hkey⟩
    have hsame : own = s := eq_of_setting_eq fun key hkey =>
      Except.ok.inj ((hsettings key hkey).symm.trans (h key hkey))
    exact hsame ▸ hown

theorem exists_convert_iff :
    (∃ s, convert t raw = .ok s) ↔ ∀ key ∈ keys, ∃ v, readSetting raw key = .ok v := by
  constructor
  · intro h
    obtain ⟨s, hs⟩ := h
    exact fun key hkey => ⟨_, convert_eq_ok_iff.mp hs key hkey⟩
  · intro h
    obtain ⟨s, hs, -⟩ := convert_of_read t h
    exact ⟨s, hs⟩

/-- Raw values that are the same under every key are converted alike. -/
theorem convert_congr (h : ∀ key ∈ keys, rawSetting raw key = rawSetting other key) :
    convert t raw = convert t other := by
  have hfaults : (arrange t.conversion keys).findSome? (fault? raw) =
      (arrange t.conversion keys).findSome? (fault? other) := by
    rw [← List.head?_filterMap, ← List.head?_filterMap]
    refine congrArg List.head? (List.filterMap_congr fun key hkey => ?_)
    rw [fault?, fault?, readSetting, readSetting, h key (mem_arrange_keys.mp hkey)]
  obtain ⟨hbpftool, hss, htimeout, hconcurrency⟩ := forall_mem_keys_iff.mp h
  rw [convert, convert, hfaults, hbpftool, hss, htimeout, hconcurrency]

section Loads

variable {files : Files} {env : Environment} {path : String} {required : Bool} {fields : Fields}

theorem load_eq_ok_iff :
    load t files env path required = .ok s ↔ ∃ fields, fileFields files path required = .ok fields ∧
      ∃ raw, rawTable? t fields env = some raw ∧ convert t raw = .ok s ∧ s.commandTimeoutMs ≠ 0 := by
  unfold load
  cases fileFields files path required with
  | error e => simp
  | ok fields =>
    simp only [Except.ok.injEq, exists_eq_left']
    cases rawTable? t fields env with
    | none => simp
    | some raw =>
      simp only [Option.some.injEq, exists_eq_left']
      cases convert t raw with
      | error e => simp
      | ok own =>
        constructor
        · intro h
          dsimp only at h
          split at h
          · contradiction
          · rename_i hzero
            cases h
            exact ⟨rfl, hzero⟩
        · intro h
          obtain ⟨hs, hzero⟩ := h
          cases hs
          simp [hzero]

end Loads

end SocketCensus.Settings
