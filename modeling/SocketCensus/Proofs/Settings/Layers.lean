import SocketCensus.Proofs.Settings.Conversion
import SocketCensus.Proofs.Settings.Document
import SocketCensus.Proofs.Settings.Fields

/-!
The layers of the settings. Each setting is what the environment says, else what the file says, else
the built-in default; it is converted on its own, so that nothing but these effective values
matters to the settings of a run.
-/
namespace SocketCensus.Settings

/-- The scalar that a value of a document is taken for; a date is taken for its text. -/
def scalar? : Toml.Value → Option Scalar
  | .text s => some (.text s)
  | .integer n => some (.integer n)
  | .float x => some (.float x)
  | .boolean b => some (.boolean b)
  | .moment m => some (.text m.text)
  | .array _ => none
  | .table _ => none

def entries? : List (String × Toml.Value) → Option (List (String × Scalar))
  | [] => some []
  | (key, value) :: rest => do return (key, ← scalar? value) :: (← entries? rest)

def documentEntries? (content : List UInt8) : Option (List (String × Scalar)) := do
  let text ← Utf8.decode? content
  match ← Toml.parse? text with
  | .table fields => entries? fields
  | _ => none

/-- What a settings file gives: the entries of a document of scalars. A file that is absent or no text
gives nothing, where none is required. -/
inductive FileGives (files : Files) (path : String) (required : Bool) : List (String × Scalar) → Prop
  | document {name : String} {content : List UInt8} {entries : List (String × Scalar)}
      (hlocated : File.locate? files path = some (name, content))
      (hentries : documentEntries? content = some entries) : FileGives files path required entries
  | absent (hlocated : File.locate? files path = none) (hrequired : required = false) :
      FileGives files path required []
  | unreadable {name : String} {content : List UInt8}
      (hlocated : File.locate? files path = some (name, content))
      (htext : Utf8.decode? content = none) (hrequired : required = false) :
      FileGives files path required []

def Environment.value? (env : Environment) (key : String) : Option String :=
  (env.pairs.find? fun v => settingName? v.1 == some key).map Prod.snd

def builtIn (key : String) : Scalar :=
  match Fields.get? key defaults with
  | some (.scalar _ value) => value
  | _ => .absent

theorem builtIn_eq (key : String) :
    ∃ origin, (Fields.get? key defaults).getD Node.absent = .scalar origin (builtIn key) := by
  have hscalars : Fields.Scalars defaults := by simp [Fields.Scalars, defaults]
  unfold builtIn
  cases hfound : Fields.get? key defaults with
  | none => exact ⟨none, rfl⟩
  | some node =>
    obtain ⟨origin, value, rfl⟩ := hscalars.of_get? hfound
    exact ⟨origin, rfl⟩

def effective (env : Environment) (entries : List (String × Scalar)) (key : String) : Scalar :=
  match env.value? key with
  | some s => .text s
  | none => (entries.lookup key).getD (builtIn key)

/-- A file of scalars under plain names, and variables that can be read, under different plain names. -/
structure Layered (files : Files) (env : Environment) (path : String) (required : Bool)
    (entries : List (String × Scalar)) : Prop where
  file : FileGives files path required entries
  plain_entries : ∀ e ∈ entries, Plain e.1
  legible : env.legible = true
  whole_variables : ∀ v ∈ env.pairs, Environment.isTorn v.1 = false
  plain_variables : ∀ v ∈ env.pairs, ∀ name ∈ Environment.settingName? v.1, Plain name
  distinct_variables : (env.pairs.filterMap fun v => Environment.settingName? v.1).Nodup

theorem nodeOf_of_scalar? {origin : Option String} {value : Toml.Value} {s : Scalar}
    (h : scalar? value = some s) : nodeOf origin value = .scalar origin s := by
  cases value <;> simp_all [scalar?, nodeOf]

theorem entries?_cons_eq_some_iff {f : String × Toml.Value} {rest : List (String × Toml.Value)}
    {entries : List (String × Scalar)} : entries? (f :: rest) = some entries ↔
      ∃ s, scalar? f.2 = some s ∧ ∃ others, entries? rest = some others ∧
        (f.1, s) :: others = entries := by
  simp [entries?, Option.bind_eq_some_iff]

theorem fieldsOf_of_entries? {origin : Option String} {fields : List (String × Toml.Value)}
    {entries : List (String × Scalar)} (h : entries? fields = some entries) :
    fieldsOf origin fields = entries.map fun e => (e.1, .scalar origin e.2) := by
  induction fields generalizing entries with
  | nil =>
    cases h
    rfl
  | cons f rest ih =>
    obtain ⟨s, hs, others, hothers, rfl⟩ := entries?_cons_eq_some_iff.mp h
    simp [fieldsOf, nodeOf_of_scalar? hs, ih hothers]

theorem map_fst_of_entries? {fields : List (String × Toml.Value)} {entries : List (String × Scalar)}
    (h : entries? fields = some entries) : entries.map Prod.fst = fields.map Prod.fst := by
  induction fields generalizing entries with
  | nil =>
    cases h
    rfl
  | cons f rest ih =>
    obtain ⟨s, -, others, hothers, rfl⟩ := entries?_cons_eq_some_iff.mp h
    simp [ih hothers]

theorem documentEntries?_eq_some_iff {content : List UInt8} {entries : List (String × Scalar)} :
    documentEntries? content = some entries ↔ ∃ text fields, Utf8.decode? content = some text ∧
      Toml.parse? text = some (.table fields) ∧ entries? fields = some entries := by
  simp only [documentEntries?, Option.bind_eq_bind, Option.bind_eq_some_iff]
  constructor
  · intro h
    obtain ⟨text, htext, value, hparsed, hentries⟩ := h
    cases value with
    | table fields => exact ⟨text, fields, htext, hparsed, hentries⟩
    | _ => contradiction
  · intro h
    obtain ⟨text, fields, htext, hparsed, hentries⟩ := h
    exact ⟨text, htext, _, hparsed, hentries⟩

/-- The fields that a file gives, all of one origin, and their names differ. -/
theorem FileGives.fields {files : Files} {path : String} {required : Bool}
    {entries : List (String × Scalar)} (h : FileGives files path required entries) :
    (entries.map Prod.fst).Nodup ∧ ∃ origin, fileFields files path required =
      .ok (entries.map fun e => (e.1, .scalar origin e.2)) := by
  cases h with
  | @document name content _ hlocated hentries =>
    obtain ⟨text, fields, htext, hparsed, hscalars⟩ := documentEntries?_eq_some_iff.mp hentries
    refine ⟨map_fst_of_entries? hscalars ▸ Toml.nodup_of_parse? hparsed, some name, ?_⟩
    simp [fileFields, hlocated, htext, hparsed, fieldsOf_of_entries? hscalars]
  | absent hlocated hrequired => exact ⟨List.nodup_nil, none, by simp [fileFields, hlocated, hrequired]⟩
  | unreadable hlocated htext hrequired =>
    exact ⟨List.nodup_nil, none, by simp [fileFields, hlocated, htext, hrequired]⟩

theorem get?_scalarFields (origin : Option String) (entries : List (String × Scalar)) (key : String) :
    Fields.get? key (entries.map fun e => (e.1, Node.scalar origin e.2)) =
      (entries.lookup key).map (Node.scalar origin) := by
  induction entries with
  | nil => rfl
  | cons e rest ih =>
    obtain ⟨name, value⟩ := e
    by_cases hkey : name = key
    · simp [Fields.get?, hkey]
    · have hne : (key == name) = false := beq_false_of_ne (Ne.symm hkey)
      simp [Fields.get?, List.lookup_cons, hkey, hne, ih]

namespace Environment

variable {pairs : List (String × String)} {key : String}

theorem map_fst_given (pairs : List (String × String)) :
    (given pairs).map Prod.fst = pairs.filterMap fun v => settingName? v.1 := by
  rw [given, List.map_filterMap]
  simp [Function.comp_def]

theorem get?_given (env : Environment) (key : String) :
    Fields.get? key (given env.pairs) = (env.value? key).map (Node.text (some origin)) := by
  rw [value?]
  induction env.pairs with
  | nil => rfl
  | cons v rest ih =>
    cases hname : settingName? v.1 with
    | none => simpa [given, hname] using ih
    | some name =>
      by_cases hkey : name = key
      · simp [given, hname, hkey, Fields.get?]
      · simpa [given, hname, hkey, Fields.get?] using ih

theorem flat_given (hplain : ∀ v ∈ pairs, ∀ name ∈ settingName? v.1, Plain name)
    (hdistinct : (pairs.filterMap fun v => settingName? v.1).Nodup) : (given pairs).Flat where
  scalars f hf := by
    obtain ⟨v, -, -, hvalue⟩ := mem_given hf
    exact ⟨_, _, hvalue⟩
  plain f hf := by
    obtain ⟨v, hv, hname, -⟩ := mem_given hf
    exact hplain v hv f.1 hname
  distinct := by
    rw [Fields.Distinct, map_fst_given]
    exact hdistinct

theorem fields?_of_distinct {env : Environment} (hlegible : env.legible = true)
    (hwhole : ∀ v ∈ env.pairs, isTorn v.1 = false) (hdistinct : (given env.pairs).Distinct) :
    env.fields? = some (given env.pairs) := by
  have htorn : (env.pairs.any fun v => isTorn v.1) = false := by simpa using hwhole
  have hput : Fields.putAll (given env.pairs) [] = given env.pairs :=
    Fields.putAll_of_distinct hdistinct
  rw [fields?, hlegible, htorn, hput]
  rfl

end Environment

variable {files : Files} {env : Environment} {path : String} {required : Bool}
  {entries : List (String × Scalar)}

/-- What counts is found in the table of all raw settings, which knows nothing else. -/
theorem Layered.rawSetting_eq (h : Layered files env path required entries) (t : Traversal) :
    ∃ fields raw, fileFields files path required = .ok fields ∧ rawTable? t fields env = some raw ∧
      ∀ key, ∃ origin, rawSetting raw key = .scalar origin (effective env entries key) := by
  obtain ⟨hdistinct, origin, hfields⟩ := h.file.fields
  let fields : Fields := entries.map fun e => (e.1, .scalar origin e.2)
  have hflat : fields.Flat :=
    { scalars := by
        intro f hf
        obtain ⟨e, -, rfl⟩ := List.mem_map.mp hf
        exact ⟨origin, e.2, rfl⟩
      plain := by
        intro f hf
        obtain ⟨e, he, rfl⟩ := List.mem_map.mp hf
        exact h.plain_entries e he
      distinct := by simpa [Fields.Distinct, fields, Function.comp_def] using hdistinct }
  have hgiven := Environment.flat_given h.plain_variables h.distinct_variables
  obtain ⟨raw, hraw, hlookup⟩ := exists_rawTable? t hflat
    (Environment.fields?_of_distinct h.legible h.whole_variables hgiven.distinct) hgiven
  refine ⟨fields, raw, hfields, hraw, ?_⟩
  intro key
  have hkey := hlookup key
  rw [env.get?_given, get?_scalarFields] at hkey
  rw [rawSetting, hkey, effective]
  cases env.value? key with
  | some s => exact ⟨_, rfl⟩
  | none =>
    cases entries.lookup key with
    | some value => exact ⟨origin, rfl⟩
    | none =>
      obtain ⟨own, hdefault⟩ := builtIn_eq key
      exact ⟨own, by simpa using hdefault⟩

def Scalar.text? (value : Scalar) : Option String := toText? (.scalar none value)

def Scalar.count? (value : Scalar) : Option Nat :=
  (toInt? (.scalar none value)).map fun n => (n % wordCount).toNat

theorem readText_eq_ok_iff {key : String} {origin : Option String} {value : Scalar} {s : String} :
    readText key (.scalar origin value) = .ok s ↔ value.text? = some s := by
  have horigin : toText? (.scalar origin value) = value.text? := by cases value <;> rfl
  rw [readText, horigin]
  cases value.text? <;> simp

theorem readCount_eq_ok_iff {key : String} {origin : Option String} {value : Scalar} {n : Nat} :
    readCount key (.scalar origin value) = .ok n ↔ value.count? = some n := by
  have horigin : toInt? (.scalar origin value) = toInt? (.scalar none value) := by cases value <;> rfl
  rw [readCount, horigin, Scalar.count?]
  cases toInt? (.scalar none value) <;> simp

theorem Layered.load_eq_ok_iff (h : Layered files env path required entries) (t : Traversal)
    {s : Settings} : load t files env path required = .ok s ↔
      (effective env entries bpftoolPathKey).text? = some s.bpftoolPath ∧
      (effective env entries ssPathKey).text? = some s.ssPath ∧
      (effective env entries commandTimeoutKey).count? = some s.commandTimeoutMs ∧
      (effective env entries writeConcurrencyKey).count? = some s.writeConcurrency ∧
      s.commandTimeoutMs ≠ 0 := by
  obtain ⟨fields, raw, hfields, hraw, hvalues⟩ := h.rawSetting_eq t
  have htext (key value : String) : readText key (rawSetting raw key) = .ok value ↔
      (effective env entries key).text? = some value := by
    obtain ⟨origin, hvalue⟩ := hvalues key
    rw [hvalue, readText_eq_ok_iff]
  have hcount (key : String) (count : Nat) : readCount key (rawSetting raw key) = .ok count ↔
      (effective env entries key).count? = some count := by
    obtain ⟨origin, hvalue⟩ := hvalues key
    rw [hvalue, readCount_eq_ok_iff]
  simp only [Settings.load_eq_ok_iff, hfields, hraw, Except.ok.injEq, Option.some.injEq,
    exists_eq_left', convert_eq_ok_iff, read_iff, htext, hcount, and_assoc]

end SocketCensus.Settings
