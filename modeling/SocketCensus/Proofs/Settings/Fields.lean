import SocketCensus.Proofs.Settings.Traversal
import SocketCensus.Settings.Load

/-!
Tables of scalars. Where every value is a scalar and every name is plain, setting fields puts each
under its own name and touches nothing else, so that what stands in a table after several lots of
fields is the value from the last lot that has the name, whatever the order within each lot.
-/
namespace SocketCensus.Settings

/-- A name that leads nowhere into a value. -/
def Plain (name : String) : Prop := ∀ c ∈ name.toList, c ≠ '.' ∧ c ≠ '['

instance (name : String) : Decidable (Plain name) :=
  List.decidableBAll (fun c => c ≠ '.' ∧ c ≠ '[') name.toList

theorem KeyPath.ofName_of_plain {name : String} (h : Plain name) : ofName name = [.key name] := by
  have hread : read? name = none ∨ read? name = some [.key name] := by
    unfold read? name?
    split
    · rename_i first rest hname
      split at hname
      · contradiction
      · obtain ⟨hfirst, hrest⟩ := Prod.mk.inj (Option.some.inj hname)
        cases rest with
        | nil =>
          have hwhole : name.toList.takeWhile isNameChar = name.toList := by
            have hsplit := List.takeWhile_append_dropWhile (p := isNameChar) (l := name.toList)
            rwa [hrest, List.append_nil] at hsplit
          rw [hwhole, String.ofList_toList] at hfirst
          exact .inr (by simp [steps?, hfirst])
        | cons c others =>
          have hmem : c ∈ name.toList :=
            (List.dropWhile_suffix isNameChar).subset (hrest ▸ List.mem_cons_self)
          exact .inl (by simp [steps?, h c hmem])
    · exact .inl rfl
  rcases hread with hnone | hsome
  · simp [ofName, hnone]
  · simp [ofName, hsome]

namespace Fields

def Distinct (fields : Fields) : Prop := (fields.map Prod.fst).Nodup

def Scalars (fields : Fields) : Prop := ∀ f ∈ fields, ∃ origin value, f.2 = .scalar origin value

theorem mem_put {key : String} {value : Node} {fields : Fields} {f : String × Node}
    (h : f ∈ put key value fields) : f = (key, value) ∨ f ∈ fields := by
  induction fields with
  | nil => exact .inl (List.mem_singleton.mp h)
  | cons first rest ih =>
    simp only [put] at h
    split at h
    · rcases List.mem_cons.mp h with h | h
      · exact .inl h
      · exact .inr (List.mem_cons_of_mem _ h)
    · rcases List.mem_cons.mp h with h | h
      · exact .inr (h ▸ List.mem_cons_self)
      · exact (ih h).imp_right (List.mem_cons_of_mem _)

theorem mem_putAll {fields start : Fields} {f : String × Node} (h : f ∈ putAll fields start) :
    f ∈ fields ∨ f ∈ start := by
  induction fields generalizing start with
  | nil => exact .inr h
  | cons g rest ih =>
    rcases ih h with h | h
    · exact .inl (List.mem_cons_of_mem _ h)
    · rcases mem_put h with rfl | h
      · exact .inl List.mem_cons_self
      · exact .inr h

/-- A field keeps its place, or comes last if it is new. -/
theorem map_fst_put (key : String) (value : Node) (fields : Fields) :
    (put key value fields).map Prod.fst =
      if key ∈ fields.map Prod.fst then fields.map Prod.fst else fields.map Prod.fst ++ [key] := by
  induction fields with
  | nil => rfl
  | cons first rest ih =>
    by_cases hkey : first.1 = key
    · simp [put, hkey]
    · have hne : ¬ key = first.1 := fun h => hkey h.symm
      by_cases hmem : key ∈ rest.map Prod.fst
      · simp [put, hkey, ih, hmem]
      · simp [put, hkey, hne, ih, hmem]

theorem Distinct.put {fields : Fields} (h : fields.Distinct) (key : String) (value : Node) :
    (put key value fields).Distinct := by
  rw [Distinct, map_fst_put]
  split
  · exact h
  · rename_i hnew
    refine List.nodup_append.mpr ⟨h, List.pairwise_singleton _ _, ?_⟩
    intro other hother last hlast heq
    rw [heq, List.mem_singleton.mp hlast] at hother
    exact hnew hother

theorem put_of_not_mem {key : String} (value : Node) {fields : Fields}
    (h : key ∉ fields.map Prod.fst) : put key value fields = fields ++ [(key, value)] := by
  induction fields with
  | nil => rfl
  | cons f rest ih =>
    simp only [List.map_cons, List.mem_cons, not_or] at h
    have hne : ¬ f.1 = key := fun heq => h.1 heq.symm
    simp [Fields.put, hne, ih h.2]

theorem putAll_of_distinct {fields start : Fields} (h : Distinct (start ++ fields)) :
    putAll fields start = start ++ fields := by
  induction fields generalizing start with
  | nil => simp [Fields.putAll]
  | cons f rest ih =>
    have hnew : f.1 ∉ start.map Prod.fst := by
      rw [Distinct, List.map_append, List.nodup_append] at h
      exact fun hmem => h.2.2 f.1 hmem f.1 (by simp) rfl
    have hstep : putAll (f :: rest) start = putAll rest (start ++ [f]) := by
      rw [Fields.putAll, List.foldl_cons, put_of_not_mem f.2 hnew]
      rfl
    rw [hstep, ih (by simpa using h), List.append_assoc, List.singleton_append]

theorem Distinct.putAll {start : Fields} (h : start.Distinct) (fields : Fields) :
    (putAll fields start).Distinct := by
  induction fields generalizing start with
  | nil => exact h
  | cons f rest ih => exact ih (h.put f.1 f.2)

theorem Scalars.putAll {fields start : Fields} (h : fields.Scalars) (hstart : start.Scalars) :
    (putAll fields start).Scalars := by
  induction fields generalizing start with
  | nil => exact hstart
  | cons f rest ih =>
    refine ih (fun g hg => h g (List.mem_cons_of_mem _ hg)) ?_
    intro g hg
    rcases mem_put hg with rfl | hg
    · exact h f List.mem_cons_self
    · exact hstart g hg

theorem get?_eq_none {fields : Fields} {key : String} (h : key ∉ fields.map Prod.fst) :
    get? key fields = none := by
  induction fields with
  | nil => rfl
  | cons f rest ih =>
    simp only [List.map_cons, List.mem_cons, not_or] at h
    have hne : ¬ f.1 = key := fun heq => h.1 heq.symm
    simp [get?, hne, ih h.2]

theorem Scalars.of_get? {fields : Fields} (h : fields.Scalars) {key : String} {node : Node}
    (hfound : get? key fields = some node) : ∃ origin value, node = .scalar origin value := by
  induction fields with
  | nil => contradiction
  | cons f rest ih =>
    simp only [get?] at hfound
    split at hfound
    · cases hfound
      exact h f List.mem_cons_self
    · exact ih (fun g hg => h g (List.mem_cons_of_mem _ hg)) hfound

theorem get?_eq_some_iff {fields : Fields} (h : fields.Distinct) {key : String} {node : Node} :
    get? key fields = some node ↔ (key, node) ∈ fields := by
  induction fields with
  | nil => simp [get?]
  | cons f rest ih =>
    obtain ⟨name, value⟩ := f
    obtain ⟨hfirst, hrest⟩ := List.nodup_cons.mp h
    by_cases hkey : name = key
    · subst hkey
      have hnew : (name, node) ∉ rest := fun hmem => hfirst (List.mem_map.mpr ⟨_, hmem, rfl⟩)
      simp [get?, hnew, eq_comm]
    · have hne : key ≠ name := Ne.symm hkey
      simp [get?, hkey, hne, ih hrest]

theorem get?_perm {fields others : Fields} (h : fields.Distinct) (hperm : others.Perm fields)
    (key : String) : get? key others = get? key fields := by
  have hothers : others.Distinct := (hperm.map Prod.fst).nodup_iff.mpr h
  refine Option.ext fun node => ?_
  rw [get?_eq_some_iff hothers, get?_eq_some_iff h, hperm.mem_iff]

theorem get?_putAll {fields : Fields} (h : fields.Distinct) (start : Fields) (key : String) :
    get? key (putAll fields start) = (get? key fields).or (get? key start) := by
  induction fields generalizing start with
  | nil => rfl
  | cons f rest ih =>
    obtain ⟨hfirst, hrest⟩ := List.nodup_cons.mp h
    have hstep : get? key (putAll (f :: rest) start) =
        (get? key rest).or (get? key (put f.1 f.2 start)) := ih hrest (put f.1 f.2 start)
    rw [hstep]
    by_cases hkey : f.1 = key
    · subst hkey
      simp [get?, get?_eq_none hfirst]
    · simp [get?, hkey, get?_put_of_ne f.2 start hkey]

/-- Every field has a scalar and a plain name of its own. -/
structure Flat (fields : Fields) : Prop where
  scalars : fields.Scalars
  plain : ∀ f ∈ fields, Plain f.1
  distinct : fields.Distinct

theorem Flat.perm {fields others : Fields} (h : fields.Flat) (hperm : others.Perm fields) :
    others.Flat where
  scalars f hf := h.scalars f (hperm.mem_iff.mp hf)
  plain f hf := h.plain f (hperm.mem_iff.mp hf)
  distinct := (hperm.map Prod.fst).nodup_iff.mpr h.distinct

end Fields

namespace Environment

theorem mem_given {pairs : List (String × String)} {f : String × Node} (h : f ∈ given pairs) :
    ∃ v ∈ pairs, settingName? v.1 = some f.1 ∧ f.2 = .text (some origin) v.2 := by
  obtain ⟨v, hv, hf⟩ := List.mem_filterMap.mp h
  obtain ⟨name, hname, rfl⟩ := Option.map_eq_some_iff.mp hf
  exact ⟨v, hv, hname, rfl⟩

theorem mem_fields? {env : Environment} {envFields : Fields} {f : String × Node}
    (h : env.fields? = some envFields) (hf : f ∈ envFields) :
    ∃ v ∈ env.pairs, settingName? v.1 = some f.1 ∧ f.2 = .text (some origin) v.2 := by
  unfold fields? at h
  split at h
  · cases h
    rcases Fields.mem_putAll hf with hf | hf
    · exact mem_given hf
    · contradiction
  · contradiction

end Environment

theorem Node.mergeFields_table {fields : Fields} (h : fields.Scalars) (origin : Option String)
    (start : Fields) :
    mergeFields fields (.table origin start) = .table origin (Fields.putAll fields start) := by
  induction fields generalizing start with
  | nil => rfl
  | cons f rest ih =>
    obtain ⟨key, node⟩ := f
    obtain ⟨own, value, rfl⟩ := h (key, node) List.mem_cons_self
    rw [mergeFields, merge]
    exact ih (fun g hg => h g (List.mem_cons_of_mem _ hg)) _

/-- Fields that are flat are put, so that there is a result. -/
theorem applyFields?_table {fields : Fields} (h : fields.Flat) (room : Nat)
    (origin : Option String) (start : Fields) :
    applyFields? room fields (.table origin start) = some (.table origin (Fields.putAll fields start)) := by
  induction fields generalizing start with
  | nil => rfl
  | cons f rest ih =>
    obtain ⟨key, node⟩ := f
    obtain ⟨own, value, rfl⟩ := h.scalars (key, node) List.mem_cons_self
    have hkey : KeyPath.ofName key = [.key key] :=
      KeyPath.ofName_of_plain (h.plain (key, .scalar own value) List.mem_cons_self)
    have hrest : Fields.Flat rest :=
      { scalars := fun g hg => h.scalars g (List.mem_cons_of_mem _ hg)
        plain := fun g hg => h.plain g (List.mem_cons_of_mem _ hg)
        distinct := (List.nodup_cons.mp h.distinct).2 }
    have hstep : Node.setAt? room (.scalar own value) (KeyPath.ofName key) (.table origin start) =
        some (.table origin (Fields.put key (.scalar own value) start)) := by
      rw [hkey, Node.setAt?, Node.set, Node.merge]
      rfl
    rw [applyFields?, List.foldlM_cons, hstep]
    exact ih hrest _

/-- The raw settings found, from the last layer to the first, in whatever orders the layers are gone
through. -/
theorem exists_rawTable? (t : Traversal) {fileFields envFields : Fields} {env : Environment}
    (hfile : fileFields.Flat) (hfields : env.fields? = some envFields) (henv : envFields.Flat) :
    ∃ raw, rawTable? t fileFields env = some raw ∧ ∀ key, raw.get? key =
      (Fields.get? key envFields).or ((Fields.get? key fileFields).or (Fields.get? key defaults)) := by
  have hperm (rank : String → Nat) (fields : Fields) : (inOrder rank fields).Perm fields :=
    arrange_perm _ fields
  have hfirst := hfile.perm (hperm t.file fileFields)
  have hagain := hfile.perm (hperm t.fileAgain fileFields)
  have hlast := henv.perm (hperm t.environment envFields)
  let fromFile := Fields.putAll (inOrder t.fileAgain fileFields) []
  have hgiven : fromFile.Scalars := hagain.scalars.putAll fun f hf => by simp at hf
  have hall : (Fields.putAll (inOrder t.environment envFields) fromFile).Scalars :=
    hlast.scalars.putAll hgiven
  have hempty : Fields.Distinct [] := List.nodup_nil
  have hdistinct : (Fields.putAll (inOrder t.environment envFields) fromFile).Distinct :=
    (hempty.putAll _).putAll _
  refine ⟨overDefaults (.table none (Fields.putAll (inOrder t.environment envFields) fromFile)), ?_, ?_⟩
  · simp only [rawTable?, Node.emptyTable, applyFields?_table hfirst, applyFields?_table hagain,
      hfields, applyFields?_table hlast, Option.bind_eq_bind, Option.bind_some, Option.pure_def,
      fromFile]
  · intro key
    rw [overDefaults, Node.mergeFields_table hall, Node.get?, Fields.get?_putAll hdistinct,
      Fields.get?_putAll hlast.distinct, Fields.get?_putAll hagain.distinct,
      Fields.get?_perm hfile.distinct (hperm t.fileAgain fileFields),
      Fields.get?_perm henv.distinct (hperm t.environment envFields)]
    simp [Fields.get?, Option.or_assoc]

end SocketCensus.Settings
