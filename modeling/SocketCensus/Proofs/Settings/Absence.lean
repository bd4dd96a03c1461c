import SocketCensus.Proofs.Settings.Conversion
import SocketCensus.Proofs.Settings.Crash

/-!
Whether a settings file is required. It matters to a path at which there is no text to be read, and to
no other: there a required file is an error whatever the environment says, and any other file counts
as an empty one. What is wrong with the text or with a value is an error in both cases.
-/
namespace SocketCensus.Settings

/-- The text to which a path leads: that of the file there, or of the file with the extension if there
is none there. -/
inductive File.Resolves (files : Files) (path : String) (text : List Char) : Prop
  | itself {content : List UInt8} (hfile : files.file? path = some content)
      (htext : Utf8.decode? content = some text) : File.Resolves files path text
  | extended {other : String} {content : List UInt8} (hnone : files.file? path = none)
      (hother : File.withExtension? path = some other) (hfile : files.file? other = some content)
      (htext : Utf8.decode? content = some text) : File.Resolves files path text

/-- What can be wrong with a load. Several of these may be wrong at once. -/
inductive Wrong (t : Traversal) (files : Files) (env : Environment) (path : String) (required : Bool) :
    LoadFailure → Prop
  | missing (hrequired : required = true) (hlocated : File.locate? files path = none) :
      Wrong t files env path required (.refused (.fileNotFound path))
  | unreadable {name : String} {content : List UInt8} (hrequired : required = true)
      (hlocated : File.locate? files path = some (name, content))
      (htext : Utf8.decode? content = none) : Wrong t files env path required (.refused .fileNotText)
  | malformed {text : List Char} (hresolves : File.Resolves files path text)
      (hparsed : Toml.parse? text = none) : Wrong t files env path required (.refused .fileMalformed)
  | crash {fields : Fields} (hfile : fileFields files path required = .ok fields)
      (hcrash : Crash t fields env) : Wrong t files env path required .crashed
  | unread {fields : Fields} {raw : Node} {key : String} {e : TypeError}
      (hfile : fileFields files path required = .ok fields) (hraw : rawTable? t fields env = some raw)
      (hkey : key ∈ keys) (hread : readSetting raw key = .error e) :
      Wrong t files env path required (.refused (.wrongType e))
  | zero {fields : Fields} {raw : Node} (hfile : fileFields files path required = .ok fields)
      (hraw : rawTable? t fields env = some raw)
      (hread : readSetting raw commandTimeoutKey = .ok (.count 0)) :
      Wrong t files env path required (.refused .zeroTimeout)

variable {t : Traversal} {files : Files} {env : Environment} {path : String} {required : Bool}
  {text : List Char} {e : LoadFailure}

theorem File.resolves_iff : File.Resolves files path text ↔
    ∃ name content, File.locate? files path = some (name, content) ∧
      Utf8.decode? content = some text := by
  rw [File.locate?, File.candidates, List.findSome?_cons]
  constructor
  · intro h
    cases h with
    | @itself content hfile htext =>
      rw [hfile]
      exact ⟨_, content, rfl, htext⟩
    | @extended other content hnone hother hfile htext =>
      rw [hnone, hother]
      exact ⟨Folder.plain other, content, by simp [hfile], htext⟩
  · intro h
    obtain ⟨name, content, hlocated, htext⟩ := h
    cases hfile : files.file? path with
    | some own =>
      rw [hfile] at hlocated
      cases hlocated
      exact .itself hfile htext
    | none =>
      cases hother : File.withExtension? path with
      | none => simp [hfile, hother] at hlocated
      | some other =>
        simp only [hfile, hother, Option.map_none, Option.toList_some, List.findSome?_cons,
          List.findSome?_nil] at hlocated
        cases hcontent : files.file? other with
        | none => simp [hcontent] at hlocated
        | some own =>
          simp only [hcontent, Option.map_some, Option.some.injEq, Prod.mk.injEq] at hlocated
          exact .extended hfile hother hcontent (hlocated.2 ▸ htext)

/-- Where a text is found, it is read in the same way whether or not the file is required. -/
theorem fileFields_of_resolves (h : File.Resolves files path text) (required other : Bool) :
    fileFields files path required = fileFields files path other := by
  obtain ⟨name, content, hlocated, htext⟩ := File.resolves_iff.mp h
  simp only [fileFields, hlocated, htext]

theorem fileFields_of_malformed (h : File.Resolves files path text) (hparsed : Toml.parse? text = none) :
    fileFields files path required = .error .fileMalformed := by
  obtain ⟨name, content, hlocated, htext⟩ := File.resolves_iff.mp h
  simp only [fileFields, hlocated, htext, hparsed]

theorem fileFields_of_empty (h : File.Resolves files path []) : fileFields files path required = .ok [] := by
  obtain ⟨name, content, hlocated, htext⟩ := File.resolves_iff.mp h
  have hparsed : Toml.parse? [] = some (.table []) := rfl
  simp only [fileFields, hlocated, htext, hparsed, fieldsOf]

theorem fileFields_of_not_resolves (h : ∀ text, ¬ File.Resolves files path text) :
    fileFields files path false = .ok [] ∧
      (fileFields files path true = .error (.fileNotFound path) ∨
        fileFields files path true = .error .fileNotText) := by
  cases hlocated : File.locate? files path with
  | none => exact ⟨by simp [fileFields, hlocated], .inl (by simp [fileFields, hlocated])⟩
  | some located =>
    obtain ⟨name, content⟩ := located
    have htext : Utf8.decode? content = none := by
      cases htext : Utf8.decode? content with
      | none => rfl
      | some text => exact absurd (File.resolves_iff.mpr ⟨name, content, hlocated, htext⟩) (h text)
    exact ⟨by simp [fileFields, hlocated, htext], .inr (by simp [fileFields, hlocated, htext])⟩

theorem wrong_of_fileFields {e : SettingsError} (h : fileFields files path required = .error e) :
    Wrong t files env path required (.refused e) := by
  unfold fileFields at h
  split at h
  · rename_i hlocated
    split at h
    · rename_i hrequired
      cases h
      exact .missing hrequired hlocated
    · contradiction
  · rename_i name content hlocated
    split at h
    · rename_i htext
      split at h
      · rename_i hrequired
        cases h
        exact .unreadable hrequired hlocated htext
      · contradiction
    · rename_i text htext
      split at h
      · rename_i hparsed
        cases h
        exact .malformed (File.resolves_iff.mpr ⟨name, content, hlocated, htext⟩) hparsed
      · contradiction
      · contradiction

theorem wrong_of_load (h : load t files env path required = .error e) :
    Wrong t files env path required e := by
  unfold load at h
  split at h
  · rename_i hfile
    cases h
    exact wrong_of_fileFields hfile
  · rename_i fields hfile
    split at h
    · rename_i hraw
      cases h
      exact .crash hfile (rawTable?_eq_none_iff.mp hraw)
    · rename_i raw hraw
      split at h
      · rename_i cause hconvert
        cases h
        obtain ⟨key, hkey, hread⟩ := of_convert_eq_error hconvert
        exact .unread hfile hraw hkey hread
      · rename_i s hconvert
        split at h
        · rename_i hzero
          cases h
          have hread := convert_eq_ok_iff.mp hconvert commandTimeoutKey (by decide)
          exact .zero hfile hraw (hzero ▸ hread)
        · contradiction

theorem not_wrong_of_load {s : Settings} (h : load t files env path required = .ok s) :
    ¬ Wrong t files env path required e := by
  obtain ⟨fields, hfields, raw, hraw, hconvert, hzero⟩ := load_eq_ok_iff.mp h
  have hsettings := convert_eq_ok_iff.mp hconvert
  intro hwrong
  cases hwrong with
  | missing hrequired hlocated => simp [fileFields, hlocated, hrequired] at hfields
  | unreadable hrequired hlocated htext => simp [fileFields, hlocated, htext, hrequired] at hfields
  | malformed hresolves hparsed =>
    rw [fileFields_of_malformed hresolves hparsed] at hfields
    contradiction
  | crash hfile hcrash =>
    obtain rfl := Except.ok.inj (hfile.symm.trans hfields)
    rw [rawTable?_eq_none_iff.mpr hcrash] at hraw
    contradiction
  | unread hfile hother hkey hread =>
    obtain rfl := Except.ok.inj (hfile.symm.trans hfields)
    obtain rfl := Option.some.inj (hother.symm.trans hraw)
    rw [hsettings _ hkey] at hread
    contradiction
  | zero hfile hother hread =>
    obtain rfl := Except.ok.inj (hfile.symm.trans hfields)
    obtain rfl := Option.some.inj (hother.symm.trans hraw)
    have hcount := hsettings commandTimeoutKey (by decide)
    exact hzero (Setting.count.inj (Except.ok.inj (hcount.symm.trans hread)))

/-- A load fails exactly if something is wrong. -/
theorem exists_load_error_iff :
    (∃ e, load t files env path required = .error e) ↔ ∃ e, Wrong t files env path required e := by
  constructor
  · intro h
    obtain ⟨e, he⟩ := h
    exact ⟨e, wrong_of_load he⟩
  · intro h
    obtain ⟨e, he⟩ := h
    cases hload : load t files env path required with
    | error own => exact ⟨own, rfl⟩
    | ok s => exact absurd he (not_wrong_of_load hload)

/-- What is wrong where a text is found is wrong whether or not the file is required. -/
theorem Wrong.of_resolves (h : File.Resolves files path text)
    (hwrong : Wrong t files env path required e) (other : Bool) : Wrong t files env path other e := by
  have hsame := fileFields_of_resolves h required other
  obtain ⟨name, content, hlocated, htext⟩ := File.resolves_iff.mp h
  cases hwrong with
  | missing hrequired hnone => simp [hnone] at hlocated
  | unreadable hrequired hfound hnone =>
    obtain ⟨rfl, rfl⟩ := Prod.mk.inj (Option.some.inj (hfound.symm.trans hlocated))
    rw [hnone] at htext
    contradiction
  | malformed hresolves hparsed => exact .malformed hresolves hparsed
  | crash hfile hcrash => exact .crash (hsame ▸ hfile) hcrash
  | unread hfile hraw hkey hread => exact .unread (hsame ▸ hfile) hraw hkey hread
  | zero hfile hraw hread => exact .zero (hsame ▸ hfile) hraw hread

/-- A load fails exactly if something is wrong, and with an error that says so, which is the only
error there can be if only one thing is wrong. Where a path leads to a text, it makes no difference
to the settings and to what is wrong whether the file is required. Where it leads to none, a required
file is an error for this reason, whatever the environment says; and a file that is not required gives
the settings, or the error, that an empty file gives. -/
theorem required_decides_about_absence (t : Traversal) (files : Files) (path : String) :
    (∀ env required,
      ((∃ e, load t files env path required = .error e) ↔ ∃ e, Wrong t files env path required e) ∧
      (∀ e, load t files env path required = .error e → Wrong t files env path required e) ∧
      ∀ e, (∀ other, Wrong t files env path required other ↔ other = e) →
        load t files env path required = .error e) ∧
    (∀ text, File.Resolves files path text → ∀ env,
      load t files env path true = load t files env path false ∧
      ∀ e, Wrong t files env path true e ↔ Wrong t files env path false e) ∧
    ((∀ text, ¬ File.Resolves files path text) →
      (∃ e, (e = .fileNotFound path ∨ e = .fileNotText) ∧
        ∀ env, load t files env path true = .error (.refused e)) ∧
      ∀ (withEmpty : Files) (emptyPath : String), File.Resolves withEmpty emptyPath [] →
        ∀ env required, load t files env path false = load t withEmpty env emptyPath required) := by
  refine ⟨?_, ?_, ?_⟩
  · intro env required
    refine ⟨exists_load_error_iff, fun e => wrong_of_load, ?_⟩
    intro e honly
    obtain ⟨own, hown⟩ := exists_load_error_iff.mpr ⟨e, (honly e).mpr rfl⟩
    rw [hown, (honly own).mp (wrong_of_load hown)]
  · intro text hresolves env
    constructor
    · simp only [load, fileFields_of_resolves hresolves true false]
    · intro e
      exact ⟨fun h => h.of_resolves hresolves false, fun h => h.of_resolves hresolves true⟩
  · intro hnone
    obtain ⟨hoptional, hrequired⟩ := fileFields_of_not_resolves hnone
    constructor
    · rcases hrequired with hmissing | hunreadable
      · exact ⟨_, .inl rfl, fun env => by simp only [load, hmissing]⟩
      · exact ⟨_, .inr rfl, fun env => by simp only [load, hunreadable]⟩
    · intro withEmpty emptyPath hempty env required
      simp only [load, hoptional, fileFields_of_empty hempty]

/-- A time limit of zero is reported for a file that is not required; bytes that are no text are an error
where they are required, and elsewhere count as the empty file beside them. -/
theorem required_decides_about_absence_of_three :
    let zero := "command_timeout_ms = 0".toList.map fun c => UInt8.ofNat c.toNat
    let files : Files := Folder.ofList
      [("census.toml", some zero), ("bytes.toml", some [255]), ("empty.toml", some [])]
    let t := Traversal.asGiven
    let env : Environment := ⟨[], true⟩
    load t files env "census" false = .error (.refused .zeroTimeout) ∧
      load t files env "census" true = .error (.refused .zeroTimeout) ∧
      Wrong t files env "census" false (.refused .zeroTimeout) ∧
      (∀ env, ∃ e, load t files env "bytes" true = .error (.refused e)) ∧
      ∀ env, load t files env "bytes" false = load t files env "empty" true := by
  intro zero files t env
  have hzero : load t files env "census" false = .error (.refused .zeroTimeout) := by decide +kernel
  have hcensus : File.Resolves files "census" "command_timeout_ms = 0".toList :=
    .extended (by decide +kernel) (by decide +kernel : _ = some "census.toml")
      (by decide +kernel : _ = some zero) (by decide +kernel)
  have hempty : File.Resolves files "empty" [] :=
    .extended (by decide +kernel) (by decide +kernel : _ = some "empty.toml")
      (by decide +kernel : _ = some []) rfl
  have hbytes : ∀ text, ¬ File.Resolves files "bytes" text := by
    intro text hresolves
    obtain ⟨name, content, hlocated, htext⟩ := File.resolves_iff.mp hresolves
    have hfound : File.locate? files "bytes" = some ("bytes.toml", [255]) := by decide +kernel
    obtain ⟨rfl, rfl⟩ := Prod.mk.inj (Option.some.inj (hfound.symm.trans hlocated))
    exact absurd htext (by simp [show Utf8.decode? [255] = none by decide +kernel])
  obtain ⟨hwrong, hsame, -⟩ := required_decides_about_absence t files "census"
  obtain ⟨-, -, habsent⟩ := required_decides_about_absence t files "bytes"
  obtain ⟨⟨e, -, herror⟩, hoptional⟩ := habsent hbytes
  refine ⟨hzero, ?_, (hwrong env false).2.1 _ hzero, fun env => ⟨e, herror env⟩, ?_⟩
  · exact (hsame _ hcensus env).1.trans hzero
  · intro env
    exact hoptional files "empty" hempty env true

end SocketCensus.Settings
