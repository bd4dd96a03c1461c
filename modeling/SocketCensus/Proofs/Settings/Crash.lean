import SocketCensus.Settings.Load

/-!
Loads that crash. A value cannot be set on a path with an index that has no place in its array; and a
variable may not be readable, or its prefix may end within a character. Then, and only then, a load of
settings ends without settings and without an error to report.
-/
namespace SocketCensus.Settings

namespace Node

variable {room : Nat} {value node : Node} {path : KeyPath} {fields : Fields}

/-- An index has no place in front of the first element, nor where an array has no room. -/
theorem placeOf?_eq_none_iff {length : Nat} {i : Int} :
    placeOf? room length i = none ↔ i < -length ∨ (max room length : Nat) ≤ i := by
  simp only [placeOf?, ite_eq_right_iff, reduceCtorEq, imp_false]
  split <;> omega

/-- The path comes to an index without a place. -/
inductive Astray (room : Nat) : KeyPath → Node → Prop
  | here {i : Int} {rest : KeyPath} {node : Node}
      (hindex : i < -node.items.length ∨ (max room node.items.length : Nat) ≤ i) :
      Astray room (.index i :: rest) node
  | item {i : Int} {rest : KeyPath} {node : Node} {place : Nat}
      (hplace : placeOf? room node.items.length i = some place)
      (hrest : Astray room rest (node.items[place]?.getD absent)) :
      Astray room (.index i :: rest) node
  | under {name : String} {rest : KeyPath} {node : Node}
      (hrest : Astray room rest ((node.get? name).getD absent)) :
      Astray room (.key name :: rest) node

theorem not_astray_nil : ¬ Astray room [] node := by
  intro h
  cases h

theorem astray_key_iff {name : String} {rest : KeyPath} :
    Astray room (.key name :: rest) node ↔ Astray room rest ((node.get? name).getD absent) := by
  constructor
  · intro h
    cases h with
    | under hrest => exact hrest
  · exact .under

theorem astray_index_iff {i : Int} {rest : KeyPath} : Astray room (.index i :: rest) node ↔
    ∀ place, placeOf? room node.items.length i = some place →
      Astray room rest (node.items[place]?.getD absent) := by
  constructor
  · intro h place hplace
    cases h with
    | here hindex =>
      rw [placeOf?_eq_none_iff.mpr hindex] at hplace
      contradiction
    | item hown hrest =>
      obtain rfl := Option.some.inj (hown.symm.trans hplace)
      exact hrest
  · intro h
    cases hplace : placeOf? room node.items.length i with
    | none => exact .here (placeOf?_eq_none_iff.mp hplace)
    | some place => exact .item hplace (h place hplace)

theorem alterItem?_eq_none_iff {i : Int} {f : Node → Option Node} :
    node.alterItem? room i f = none ↔ ∀ place, placeOf? room node.items.length i = some place →
      f (node.items[place]?.getD absent) = none := by
  simp only [alterItem?, Option.bind_eq_bind, Option.bind_eq_none_iff, Option.pure_def]
  constructor
  · intro h place hplace
    cases hitem : f (node.items[place]?.getD absent) with
    | none => rfl
    | some item => exact absurd (h place hplace item hitem) (by simp)
  · intro h place hplace item hitem
    rw [h place hplace] at hitem
    contradiction

/-- A value can be set on a path unless the path goes astray. -/
theorem setAt?_eq_none_iff : setAt? room value path node = none ↔ Astray room path node := by
  induction path generalizing node with
  | nil => simp [setAt?, not_astray_nil]
  | cons step rest ih =>
    cases step with
    | key name =>
      rw [astray_key_iff, ← ih]
      cases rest with
      | nil => simp [setAt?]
      | cons next others => simp [setAt?]
    | index i =>
      rw [astray_index_iff]
      simp only [← ih]
      cases rest with
      | nil => simp [setAt?, alterItem?_eq_none_iff]
      | cons next others => simp [setAt?, alterItem?_eq_none_iff]

end Node

variable {t : Traversal} {files : Files} {env : Environment} {path : String} {required : Bool}
  {room : Nat} {fields : Fields} {node : Node}

/-- The path of some field goes astray in what the fields before it have made. -/
def GoesAstray (room : Nat) (fields : Fields) (node : Node) : Prop :=
  ∃ before f after table, fields = before ++ f :: after ∧
    applyFields? room before node = some table ∧ table.Astray room (KeyPath.ofName f.1)

theorem applyFields?_cons (f : String × Node) (rest : Fields) : applyFields? room (f :: rest) node =
    (Node.setAt? room f.2 (KeyPath.ofName f.1) node).bind (applyFields? room rest) := by
  rw [applyFields?, List.foldlM_cons]
  rfl

theorem applyFields?_eq_none_iff : applyFields? room fields node = none ↔ GoesAstray room fields node := by
  induction fields generalizing node with
  | nil => simp [applyFields?, GoesAstray]
  | cons f rest ih =>
    rw [applyFields?_cons]
    cases hset : Node.setAt? room f.2 (KeyPath.ofName f.1) node with
    | none =>
      have hastray := Node.setAt?_eq_none_iff.mp hset
      simp only [Option.bind_none, true_iff]
      exact ⟨[], f, rest, node, rfl, rfl, hastray⟩
    | some table =>
      rw [Option.bind_some, ih]
      constructor
      · intro h
        obtain ⟨before, g, after, made, rfl, hmade, hastray⟩ := h
        refine ⟨f :: before, g, after, made, rfl, ?_, hastray⟩
        rw [applyFields?_cons, hset, Option.bind_some, hmade]
      · intro h
        obtain ⟨before, g, after, made, hfields, hmade, hastray⟩ := h
        cases before with
        | nil =>
          obtain ⟨rfl, rfl⟩ := List.cons.inj hfields
          cases hmade
          rw [Node.setAt?_eq_none_iff.mpr hastray] at hset
          contradiction
        | cons first before =>
          obtain ⟨rfl, rfl⟩ := List.cons.inj hfields
          rw [applyFields?_cons, hset, Option.bind_some] at hmade
          exact ⟨before, g, after, made, rfl, hmade, hastray⟩

/-- What crashes a load: a name of the file that goes astray, when the file is gone through for the
first or the second time, a variable that is no text or whose prefix ends within a character, or a name
of the environment that goes astray in what the file has made. -/
inductive Crash (t : Traversal) (fields : Fields) (env : Environment) : Prop
  | file (hastray : GoesAstray t.room (inOrder t.file fields) Node.emptyTable) : Crash t fields env
  | fileAgain (hastray : GoesAstray t.room (inOrder t.fileAgain fields) Node.emptyTable) :
      Crash t fields env
  | illegible (hlegible : env.legible = false) : Crash t fields env
  | torn {v : String × String} (hv : v ∈ env.pairs) (htorn : Environment.isTorn v.1 = true) :
      Crash t fields env
  | environment {fromFile : Node} {envFields : Fields}
      (hfile : applyFields? t.room (inOrder t.fileAgain fields) Node.emptyTable = some fromFile)
      (henv : env.fields? = some envFields)
      (hastray : GoesAstray t.room (inOrder t.environment envFields) fromFile) : Crash t fields env

theorem Environment.fields?_eq_none_iff :
    env.fields? = none ↔ env.legible = false ∨ ∃ v ∈ env.pairs, isTorn v.1 = true := by
  cases hlegible : env.legible <;> simp [fields?, hlegible]

theorem rawTable?_eq_none_iff : rawTable? t fields env = none ↔ Crash t fields env := by
  constructor
  · intro h
    cases hfirst : applyFields? t.room (inOrder t.file fields) Node.emptyTable with
    | none => exact .file (applyFields?_eq_none_iff.mp hfirst)
    | some alone =>
      cases hagain : applyFields? t.room (inOrder t.fileAgain fields) Node.emptyTable with
      | none => exact .fileAgain (applyFields?_eq_none_iff.mp hagain)
      | some fromFile =>
        cases henv : env.fields? with
        | none =>
          rcases Environment.fields?_eq_none_iff.mp henv with hlegible | ⟨v, hv, htorn⟩
          · exact .illegible hlegible
          · exact .torn hv htorn
        | some envFields =>
          refine .environment hagain henv (applyFields?_eq_none_iff.mp ?_)
          cases hgiven : applyFields? t.room (inOrder t.environment envFields) fromFile with
          | none => rfl
          | some given => simp [rawTable?, hfirst, hagain, henv, hgiven] at h
  · intro h
    cases hfirst : applyFields? t.room (inOrder t.file fields) Node.emptyTable with
    | none => simp [rawTable?, hfirst]
    | some alone =>
      cases h with
      | file hastray =>
        rw [applyFields?_eq_none_iff.mpr hastray] at hfirst
        contradiction
      | fileAgain hastray => simp [rawTable?, hfirst, applyFields?_eq_none_iff.mpr hastray]
      | illegible hlegible =>
        simp [rawTable?, hfirst, Environment.fields?_eq_none_iff.mpr (.inl hlegible)]
      | torn hv htorn =>
        simp [rawTable?, hfirst, Environment.fields?_eq_none_iff.mpr (.inr ⟨_, hv, htorn⟩)]
      | environment hfile henv hastray =>
        simp [rawTable?, hfirst, hfile, henv, applyFields?_eq_none_iff.mpr hastray]

theorem load_eq_crashed_iff : load t files env path required = .error .crashed ↔
    ∃ fields, fileFields files path required = .ok fields ∧ Crash t fields env := by
  unfold load
  cases fileFields files path required with
  | error e => simp
  | ok fields =>
    simp only [Except.ok.injEq, exists_eq_left', ← rawTable?_eq_none_iff]
    cases rawTable? t fields env with
    | none => simp
    | some raw =>
      dsimp only
      cases convert t raw with
      | error e => simp
      | ok s =>
        dsimp only
        split <;> simp

end SocketCensus.Settings
