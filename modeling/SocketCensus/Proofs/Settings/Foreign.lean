import SocketCensus.Proofs.Settings.Conversion
import SocketCensus.Proofs.Settings.Crash
import SocketCensus.Proofs.Settings.Fields

/-!
Variables that give no setting. The path that a name stands for begins with the name of one field, and
setting a value there changes this field alone. What becomes of a field, and whether a path goes astray
in it, is thus decided by the names that begin with its own. So a variable whose path begins with another
name than those of the settings leaves no trace in any setting, unless a path goes astray in its field.
-/
namespace SocketCensus.Settings

namespace KeyPath

theorem exists_ofName (s : String) : ∃ first rest, ofName s = .key first :: rest := by
  unfold ofName read?
  split
  · rename_i first rest _
    cases steps? rest.length rest with
    | none => exact ⟨s, [], rfl⟩
    | some steps => exact ⟨first, steps, rfl⟩
  · exact ⟨s, [], rfl⟩

/-- The field that a name leads to or into. -/
def first (s : String) : String :=
  match ofName s with
  | .key name :: _ => name
  | _ => s

def onward (s : String) : KeyPath := (ofName s).tail

theorem ofName_eq (s : String) : ofName s = .key (first s) :: onward s := by
  obtain ⟨name, rest, hpath⟩ := exists_ofName s
  simp [first, onward, hpath]

/-- Every index on the path has a place in any array. -/
def Steady (room : Nat) (path : KeyPath) : Prop :=
  ∀ i : Int, PathStep.index i ∈ path → 0 ≤ i ∧ i < room

theorem steady_nil {room : Nat} : Steady room [] := by
  intro i hi
  contradiction

theorem Steady.not_astray {room : Nat} {path : KeyPath} (h : path.Steady room) (node : Node) :
    ¬ node.Astray room path := by
  intro hastray
  induction hastray with
  | here hindex =>
    have hplace := h _ List.mem_cons_self
    omega
  | item hplace hrest ih => exact ih fun i hi => h i (List.mem_cons_of_mem _ hi)
  | under hrest ih => exact ih fun i hi => h i (List.mem_cons_of_mem _ hi)

end KeyPath

namespace Node

theorem get?_put_self (node : Node) (key : String) (value : Node) :
    (node.put key value).get? key = some value := by
  cases node <;> exact Fields.get?_put_self key value _

theorem get?_put_of_ne (node : Node) {key other : String} (value : Node) (h : key ≠ other) :
    (node.put key value).get? other = node.get? other := by
  cases node <;> exact Fields.get?_put_of_ne value _ h

/-- What comes to stand under the first name of a path when a value is set at its end. -/
def under? (room : Nat) (value : Node) (rest : KeyPath) (old : Option Node) : Option Node :=
  match rest with
  | [] => some (merge value old)
  | rest => setAt? room value rest (old.getD absent)

theorem setAt?_key (room : Nat) (value : Node) (name : String) (rest : KeyPath) (node : Node) :
    setAt? room value (.key name :: rest) node =
      (under? room value rest (node.get? name)).map (node.put name) := by
  cases rest <;> rfl

theorem under?_ne_none_of_steady {room : Nat} {value : Node} {rest : KeyPath} {old : Option Node}
    (h : rest.Steady room) : under? room value rest old ≠ none := by
  unfold under?
  split
  · simp
  · exact fun hnone => h.not_astray _ (setAt?_eq_none_iff.mp hnone)

def Tabular (node : Node) : Prop := ∃ origin fields, node = .table origin fields ∧ Fields.Distinct fields

theorem Tabular.put {node : Node} (h : node.Tabular) (key : String) (value : Node) :
    (node.put key value).Tabular := by
  obtain ⟨origin, fields, rfl, hdistinct⟩ := h
  exact ⟨origin, _, rfl, hdistinct.put key value⟩

/-- What is merged into a table goes under its own names. -/
theorem get?_mergeFields {fields : Fields} (h : fields.Distinct) (node : Node) (key : String) :
    (mergeFields fields node).get? key =
      ((Fields.get? key fields).map fun value => merge value (node.get? key)).or (node.get? key) := by
  induction fields generalizing node with
  | nil => rfl
  | cons f rest ih =>
    obtain ⟨name, value⟩ := f
    obtain ⟨hfirst, hrest⟩ := List.nodup_cons.mp h
    rw [mergeFields, ih hrest, Fields.get?]
    by_cases hkey : name = key
    · subst hkey
      rw [Fields.get?_eq_none hfirst, get?_put_self, if_pos rfl]
      rfl
    · rw [get?_put_of_ne _ _ hkey, if_neg hkey]

end Node

open KeyPath (first onward Steady)

variable {room : Nat} {fields others : Fields} {node made otherMade : Node} {name key : String}

def leading (key : String) (fields : Fields) : Fields := fields.filter fun f => first f.1 == key

/-- What becomes of the value under a key while fields are set one after the other. -/
def track? (room : Nat) (key : String) (fields : Fields) (old : Option Node) : Option (Option Node) :=
  (leading key fields).foldlM (fun old f => (Node.under? room f.2 (onward f.1) old).map some) old

theorem applyFields?_cons_eq (f : String × Node) (rest : Fields) (node : Node) :
    applyFields? room (f :: rest) node = (Node.under? room f.2 (onward f.1) (node.get? (first f.1))).bind
      fun value => applyFields? room rest (node.put (first f.1) value) := by
  rw [applyFields?_cons, KeyPath.ofName_eq, Node.setAt?_key, Option.bind_map]
  rfl

theorem track?_cons_self {f : String × Node} (h : first f.1 = key) (rest : Fields) (old : Option Node) :
    track? room key (f :: rest) old = (Node.under? room f.2 (onward f.1) old).bind
      fun value => track? room key rest (some value) := by
  have hkept : leading key (f :: rest) = f :: leading key rest :=
    List.filter_cons_of_pos (by simpa using h)
  rw [track?, hkept, List.foldlM_cons]
  cases Node.under? room f.2 (onward f.1) old <;> rfl

theorem track?_cons_of_ne {f : String × Node} (h : first f.1 ≠ key) (rest : Fields) (old : Option Node) :
    track? room key (f :: rest) old = track? room key rest old := by
  have hskipped : leading key (f :: rest) = leading key rest :=
    List.filter_cons_of_neg (by simpa using h)
  rw [track?, hskipped, track?]

theorem track?_cons {f : String × Node} {value : Node}
    (h : Node.under? room f.2 (onward f.1) (node.get? (first f.1)) = some value) (rest : Fields)
    (key : String) : track? room key (f :: rest) (node.get? key) =
      track? room key rest ((node.put (first f.1) value).get? key) := by
  by_cases hkey : first f.1 = key
  · subst hkey
    rw [track?_cons_self rfl, h, Option.bind_some, Node.get?_put_self]
  · rw [track?_cons_of_ne hkey, Node.get?_put_of_ne _ _ hkey]

/-- What is found under a key is what has become of the value there. -/
theorem track?_of_applyFields? (h : applyFields? room fields node = some made) (key : String) :
    track? room key fields (node.get? key) = some (made.get? key) := by
  induction fields generalizing node with
  | nil =>
    cases h
    rfl
  | cons f rest ih =>
    rw [applyFields?_cons_eq] at h
    obtain ⟨value, hvalue, hrest⟩ := Option.bind_eq_some_iff.mp h
    rw [track?_cons hvalue, ih hrest]

theorem exists_track?_eq_none (h : applyFields? room fields node = none) :
    ∃ key, track? room key fields (node.get? key) = none := by
  induction fields generalizing node with
  | nil => contradiction
  | cons f rest ih =>
    rw [applyFields?_cons_eq] at h
    cases hvalue : Node.under? room f.2 (onward f.1) (node.get? (first f.1)) with
    | none => exact ⟨first f.1, by rw [track?_cons_self rfl, hvalue]; rfl⟩
    | some value =>
      rw [hvalue, Option.bind_some] at h
      obtain ⟨key, hkey⟩ := ih h
      exact ⟨key, by rw [track?_cons hvalue, hkey]⟩

/-- On steady paths a value can be followed to the end. -/
theorem track?_ne_none (h : ∀ f ∈ fields, first f.1 = key → (onward f.1).Steady room)
    (old : Option Node) : track? room key fields old ≠ none := by
  induction fields generalizing old with
  | nil => simp [track?, leading]
  | cons f rest ih =>
    have hrest := ih fun g hg => h g (List.mem_cons_of_mem _ hg)
    by_cases hkey : first f.1 = key
    · rw [track?_cons_self hkey]
      cases hvalue : Node.under? room f.2 (onward f.1) old with
      | none => exact absurd hvalue (Node.under?_ne_none_of_steady (h f List.mem_cons_self hkey))
      | some value => exact hrest (some value)
    · rw [track?_cons_of_ne hkey]
      exact hrest old

theorem tabular_applyFields? (hnode : node.Tabular) (h : applyFields? room fields node = some made) :
    made.Tabular := by
  induction fields generalizing node with
  | nil =>
    cases h
    exact hnode
  | cons f rest ih =>
    rw [applyFields?_cons_eq] at h
    obtain ⟨value, -, hrest⟩ := Option.bind_eq_some_iff.mp h
    exact ih (hnode.put _ value) hrest

/-- The fields are the same but for those whose paths begin with a name. -/
def SameBut (name : String) (fields others : Fields) : Prop :=
  ∀ key, key ≠ name → leading key fields = leading key others

theorem SameBut.symm (h : SameBut name fields others) : SameBut name others fields :=
  fun key hkey => (h key hkey).symm

theorem SameBut.inOrder (h : SameBut name fields others) (rank : String → Nat) :
    SameBut name (inOrder rank fields) (inOrder rank others) := by
  intro key hkey
  rw [leading, leading, Settings.inOrder, Settings.inOrder, filter_arrange, filter_arrange]
  exact congrArg _ (h key hkey)

theorem SameBut.get?_eq (h : SameBut name fields others)
    (hmade : applyFields? room fields node = some made)
    (hother : applyFields? room others node = some otherMade) (hkey : key ≠ name) :
    made.get? key = otherMade.get? key := by
  have htrack := track?_of_applyFields? hmade key
  rw [track?, h key hkey] at htrack
  exact Option.some.inj (htrack.symm.trans (track?_of_applyFields? hother key))

/-- On steady paths from the name, what goes astray goes astray on the other fields too. -/
theorem SameBut.applyFields?_eq_none (h : SameBut name fields others)
    (hsteady : ∀ f ∈ fields, first f.1 = name → (onward f.1).Steady room)
    (hnone : applyFields? room fields node = none) : applyFields? room others node = none := by
  obtain ⟨key, hkey⟩ := exists_track?_eq_none hnone
  have hne : key ≠ name := by
    rintro rfl
    exact track?_ne_none hsteady _ hkey
  rw [track?, h key hne] at hkey
  cases hother : applyFields? room others node with
  | none => rfl
  | some otherMade =>
    have htrack := track?_of_applyFields? hother key
    rw [track?, hkey] at htrack
    contradiction

namespace Fields

theorem filter_put (p : String → Bool) (key : String) (value : Node) (fields : Fields) :
    (put key value fields).filter (fun f => p f.1) =
      if p key then put key value (fields.filter fun f => p f.1) else fields.filter fun f => p f.1 := by
  induction fields with
  | nil => cases hkey : p key <;> simp [put, hkey]
  | cons f rest ih =>
    obtain ⟨other, old⟩ := f
    by_cases hsame : other = key
    · subst hsame
      cases hkey : p other <;> simp [put, hkey]
    · cases hother : p other <;> cases hkey : p key <;> simp [put, hsame, hother, hkey, ih]

theorem filter_putAll (p : String → Bool) (fields start : Fields) :
    (putAll fields start).filter (fun f => p f.1) =
      putAll (fields.filter fun f => p f.1) (start.filter fun f => p f.1) := by
  induction fields generalizing start with
  | nil => rfl
  | cons f rest ih =>
    have hstep : putAll (f :: rest) start = putAll rest (put f.1 f.2 start) := rfl
    rw [hstep, ih, filter_put]
    cases hf : p f.1 <;> simp [hf, putAll]

end Fields

inductive Environment.SameBut (name : String) (env other : Environment) : Prop
  | unread (henv : env.fields? = none) (hother : other.fields? = none) : SameBut name env other
  | read {envFields otherFields : Fields} (henv : env.fields? = some envFields)
      (hother : other.fields? = some otherFields)
      (hsame : Settings.SameBut name envFields otherFields) : SameBut name env other

theorem Environment.SameBut.symm {env other : Environment} (h : env.SameBut name other) :
    other.SameBut name env := by
  cases h with
  | unread henv hother => exact .unread hother henv
  | read henv hother hsame => exact .read hother henv hsame.symm

/-- A variable with the name of a setting adds fields whose paths begin as this name does. -/
theorem Environment.sameBut_of_variable {variableName : String}
    (hname : settingName? variableName = some name) (value : String)
    (before after : List (String × String)) (legible : Bool) :
    SameBut (first name) ⟨before ++ (variableName, value) :: after, legible⟩
      ⟨before ++ after, legible⟩ := by
  have hwhole : isTorn variableName = false := by simp [isTorn, hname]
  have htorn : ((before ++ (variableName, value) :: after).any fun v => isTorn v.1) =
      (before ++ after).any fun v => isTorn v.1 := by
    simp [hwhole]
  have hmore : fields? ⟨before ++ (variableName, value) :: after, legible⟩ =
      if legible && !(before ++ after).any fun v => isTorn v.1 then
        some (Fields.putAll (given (before ++ (variableName, value) :: after)) [])
      else none := by
    rw [← htorn]
    rfl
  have hfewer : fields? ⟨before ++ after, legible⟩ =
      if legible && !(before ++ after).any fun v => isTorn v.1 then
        some (Fields.putAll (given (before ++ after)) [])
      else none := rfl
  cases hread : legible && !(before ++ after).any fun v => isTorn v.1 with
  | false =>
    rw [hread] at hmore hfewer
    exact .unread hmore hfewer
  | true =>
    rw [hread] at hmore hfewer
    refine .read hmore hfewer ?_
    intro key hkey
    have hskipped : (first name == key) = false := by simpa using Ne.symm hkey
    rw [leading, leading, Fields.filter_putAll fun n => first n == key,
      Fields.filter_putAll fun n => first n == key]
    simp [given, hname, hskipped]

section RawTables

variable {t : Traversal} {env other : Environment} {raw otherRaw : Node}

theorem rawTable?_eq_some_iff : rawTable? t fields env = some raw ↔
    (∃ alone, applyFields? t.room (inOrder t.file fields) Node.emptyTable = some alone) ∧
    ∃ fromFile envFields given,
      applyFields? t.room (inOrder t.fileAgain fields) Node.emptyTable = some fromFile ∧
      env.fields? = some envFields ∧
      applyFields? t.room (inOrder t.environment envFields) fromFile = some given ∧
      overDefaults given = raw := by
  simp only [rawTable?, Option.bind_eq_bind, Option.bind_eq_some_iff, Option.pure_def,
    Option.some.injEq]
  constructor
  · intro h
    obtain ⟨alone, hfirst, fromFile, hagain, envFields, henv, given, hgiven, hraw⟩ := h
    exact ⟨⟨alone, hfirst⟩, fromFile, envFields, given, hagain, henv, hgiven, hraw⟩
  · intro h
    obtain ⟨⟨alone, hfirst⟩, fromFile, envFields, given, hagain, henv, hgiven, hraw⟩ := h
    exact ⟨alone, hfirst, fromFile, hagain, envFields, henv, given, hgiven, hraw⟩

theorem rawSetting_overDefaults_congr {given otherGiven : Node} (hgiven : given.Tabular)
    (hother : otherGiven.Tabular) (h : given.get? key = otherGiven.get? key) :
    rawSetting (overDefaults given) key = rawSetting (overDefaults otherGiven) key := by
  obtain ⟨origin, own, rfl, hdistinct⟩ := hgiven
  obtain ⟨otherOrigin, others, rfl, hotherDistinct⟩ := hother
  have hsame : Fields.get? key own = Fields.get? key others := h
  simp only [rawSetting, overDefaults, Node.get?_mergeFields hdistinct,
    Node.get?_mergeFields hotherDistinct, hsame]

theorem Environment.SameBut.rawSetting_eq (h : env.SameBut name other)
    (hraw : rawTable? t fields env = some raw) (hother : rawTable? t fields other = some otherRaw)
    (hkey : key ≠ name) : rawSetting raw key = rawSetting otherRaw key := by
  have hempty : Node.emptyTable.Tabular := ⟨none, [], rfl, List.nodup_nil⟩
  obtain ⟨-, fromFile, envFields, given, hagain, henv, hgiven, rfl⟩ := rawTable?_eq_some_iff.mp hraw
  obtain ⟨-, otherFile, otherFields, otherGiven, hotherAgain, hotherEnv, hotherGiven, rfl⟩ :=
    rawTable?_eq_some_iff.mp hother
  obtain rfl : fromFile = otherFile := Option.some.inj (hagain.symm.trans hotherAgain)
  have hfromFile := tabular_applyFields? hempty hagain
  refine rawSetting_overDefaults_congr (tabular_applyFields? hfromFile hgiven)
    (tabular_applyFields? hfromFile hotherGiven) ?_
  cases h with
  | unread hnone => simp [hnone] at henv
  | read hown hotherOwn hsame =>
    obtain rfl := Option.some.inj (hown.symm.trans henv)
    obtain rfl := Option.some.inj (hotherOwn.symm.trans hotherEnv)
    exact (hsame.inOrder t.environment).get?_eq hgiven hotherGiven hkey

def Environment.SteadyUnder (env : Environment) (room : Nat) (name : String) : Prop :=
  ∀ v ∈ env.pairs, ∀ n ∈ settingName? v.1, first n = name → (onward n).Steady room

/-- On steady paths from the name, what crashes one load crashes the other. -/
theorem Environment.SameBut.rawTable?_eq_none (h : env.SameBut name other)
    (hsteady : env.SteadyUnder t.room name)
    (hnone : rawTable? t fields env = none) : rawTable? t fields other = none := by
  cases hother : rawTable? t fields other with
  | none => rfl
  | some otherRaw =>
    obtain ⟨⟨alone, hfirst⟩, fromFile, otherFields, otherGiven, hagain, hotherEnv, hotherGiven, -⟩ :=
      rawTable?_eq_some_iff.mp hother
    cases h with
    | unread _ hotherNone => simp [hotherNone] at hotherEnv
    | @read envFields _ henv hotherOwn hsame =>
      obtain rfl := Option.some.inj (hotherOwn.symm.trans hotherEnv)
      have hastray : applyFields? t.room (inOrder t.environment envFields) fromFile = none := by
        cases hgiven : applyFields? t.room (inOrder t.environment envFields) fromFile with
        | none => rfl
        | some given => simp [rawTable?, hfirst, hagain, henv, hgiven] at hnone
      have hpaths : ∀ f ∈ inOrder t.environment envFields, first f.1 = name →
          (onward f.1).Steady t.room := by
        intro f hf hfirst
        obtain ⟨v, hv, hvariable, -⟩ :=
          mem_fields? henv ((arrange_perm _ _).mem_iff.mp hf)
        exact hsteady v hv f.1 hvariable hfirst
      rw [(hsame.inOrder t.environment).applyFields?_eq_none hpaths hastray] at hotherGiven
      contradiction

end RawTables

section Loads

variable {t : Traversal} {files : Files} {env other : Environment} {path : String} {required : Bool}

theorem load_of_crash (hfile : fileFields files path required = .ok fields)
    (hraw : rawTable? t fields env = none) : load t files env path required = .error .crashed := by
  simp only [load, hfile, hraw]

/-- What is the same but for a name that is no setting's loads the same settings, or fails for the same
reason, if it crashes in both cases or in none. -/
theorem Environment.SameBut.load_eq (h : env.SameBut name other) (hname : name ∉ keys)
    (hcrash : load t files env path required = .error .crashed ↔
      load t files other path required = .error .crashed) :
    load t files env path required = load t files other path required := by
  cases hfile : fileFields files path required with
  | error e => simp only [load, hfile]
  | ok fields =>
    cases hraw : rawTable? t fields env with
    | none =>
      have hcrashed := load_of_crash hfile hraw
      exact hcrashed.trans (hcrash.mp hcrashed).symm
    | some raw =>
      cases hother : rawTable? t fields other with
      | none =>
        have hcrashed := load_of_crash hfile hother
        exact (hcrash.mpr hcrashed).trans hcrashed.symm
      | some otherRaw =>
        have hconvert : convert t raw = convert t otherRaw := convert_congr fun key hkey =>
          h.rawSetting_eq hraw hother (ne_of_mem_of_not_mem hkey hname)
        simp only [load, hfile, hraw, hother, hconvert]

theorem Environment.SameBut.load_eq_or (h : env.SameBut name other) (hname : name ∉ keys) :
    load t files env path required = load t files other path required ∨
      load t files env path required = .error .crashed ∨
      load t files other path required = .error .crashed := by
  by_cases hcrashed : load t files env path required = .error .crashed
  · exact .inr (.inl hcrashed)
  · by_cases hotherCrashed : load t files other path required = .error .crashed
    · exact .inr (.inr hotherCrashed)
    · exact .inl (h.load_eq hname (iff_of_false hcrashed hotherCrashed))

theorem Environment.SameBut.crashed_of_steady (h : env.SameBut name other)
    (hsteady : env.SteadyUnder t.room name)
    (hcrashed : load t files env path required = .error .crashed) :
    load t files other path required = .error .crashed := by
  obtain ⟨fields, hfile, hcrash⟩ := load_eq_crashed_iff.mp hcrashed
  exact load_of_crash hfile (h.rawTable?_eq_none hsteady (rawTable?_eq_none_iff.mpr hcrash))

/-- On steady paths it makes no difference to the load. -/
theorem Environment.SameBut.load_eq_of_steady (h : env.SameBut name other) (hname : name ∉ keys)
    (hsteady : env.SteadyUnder t.room name) (hother : other.SteadyUnder t.room name) :
    load t files env path required = load t files other path required :=
  h.load_eq hname ⟨h.crashed_of_steady hsteady, h.symm.crashed_of_steady hother⟩

end Loads

end SocketCensus.Settings
