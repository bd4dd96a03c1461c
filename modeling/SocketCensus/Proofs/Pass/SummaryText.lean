import Mathlib.Data.List.Basic
import SocketCensus.Proofs.Number.Numeral
import SocketCensus.Proofs.Pass.Accounting
import SocketCensus.Proofs.Text.Blocks

/-!
The text of a summary, read back. It begins with three counts, each of which ends where its digits end,
and then lists the failures, each behind a mark. As long as no message of an error has such a mark in
it, two passes have the same text only if there is the same to tell of them.
-/
namespace SocketCensus.Summary

open Text

/-- What a pass over the processes has come to. -/
inductive OfPass (ps : List Pid) (s : Summary) : Prop
  | intro (pass : Pass) (schedule : (ps : List Pid) → Schedule pass.limit ps)
      (source : Traced (Except ToolError (List Pid))) (hset : ps.Nodup)
      (hfound : source.value = .ok ps) (hresult : (pass.reconcileBy schedule source).result = .ok s)

/-- No message looks as if another failure began in it. -/
def Legible (s : Summary) : Prop := ∀ f ∈ s.failed, ¬ "\n  PID ".toList <:+: f.2.message.toList

def failureMark : Mark := ⟨'\n', "  PID ".toList, by decide⟩

def told (f : Pid × WriteError) : Pid × String := (f.1, f.2.message)

def failureBody (f : Pid × String) : List Char := (toString f.1).toList ++ ':' :: (' ' :: f.2.toList)

theorem OfPass.accounts {ps : List Pid} {s : Summary} (h : s.OfPass ps) : ∃ t, s.Accounts t ps := by
  obtain ⟨pass, schedule, source, hset, hfound, hresult⟩ := h
  obtain ⟨own, hown, haccounts⟩ := pass.result_writeAll hset (schedule ps)
  simp only [Pass.reconcileBy, hfound] at hresult
  obtain rfl : own = s := Except.ok.inj (hown.symm.trans hresult)
  exact ⟨pass.target, haccounts⟩

theorem OfPass.discovered_eq_zero_iff {ps : List Pid} {s : Summary} (h : s.OfPass ps) :
    s.discovered = 0 ↔ ps = [] := by
  obtain ⟨t, hs⟩ := h.accounts
  rw [hs.discovered, List.length_eq_zero_iff]

theorem OfPass.eq_empty {s : Summary} (h : s.OfPass []) : s = empty := by
  obtain ⟨t, hs⟩ := h.accounts
  exact (accounts_empty t).unique hs (.refl [])

theorem toList_failures (failed : List (Pid × WriteError)) :
    (String.join (failed.map failureText)).toList =
      failureMark.blocks ((failed.map told).map failureBody) := by
  rw [String.toList_join, Mark.blocks, List.flatMap_map, List.flatMap_map, List.flatMap_map]
  refine List.flatMap_congr fun f _ => ?_
  simp only [failureText, String.toList_append, List.append_assoc]
  rfl

theorem toList_text {s : Summary} (h : s.discovered ≠ 0) :
    s.text.toList = "discovered: ".toList ++ ((toString s.discovered).toList ++
      ',' :: (" inserted: ".toList ++ ((toString s.insertedCount).toList ++
        ',' :: (" failed: ".toList ++ ((toString s.failedCount).toList ++
          failureMark.blocks ((s.failed.map told).map failureBody)))))) := by
  have hempty : s.isEmpty = false := by simpa [isEmpty] using h
  rw [← toList_failures, text, hempty]
  simp only [Bool.false_eq_true, if_false, String.toList_append, List.append_assoc]
  rfl

theorem text_eq_none_found_iff {s : Summary} :
    s.text = "no active network PIDs found" ↔ s.discovered = 0 := by
  constructor
  · intro h
    by_contra hsome
    have hfirst : "no active network PIDs found".toList.head? = some 'd' := by
      rw [← h, toList_text hsome]
      rfl
    exact absurd hfirst (by decide)
  · intro hnone
    simp [text, isEmpty, hnone]

theorem failureBody_inj {f g : Pid × String} (h : failureBody f = failureBody g) : f = g := by
  have hcolon (p : Pid) : ':' ∉ (toString p).toList := Decimal.not_mem_toString (by decide) rfl
  obtain ⟨hpid, hmessage⟩ := append_cons_inj (hcolon f.1) (hcolon g.1) h
  have hfirst : f.1 = g.1 := Decimal.toList_toString_inj hpid
  have hsecond : f.2 = g.2 := String.toList_inj.mp (List.cons.inj hmessage).2
  exact Prod.ext hfirst hsecond

/-- A mark in the text of a failure would be one in its message. -/
theorem Legible.free {s : Summary} (h : s.Legible) :
    ∀ body ∈ (s.failed.map told).map failureBody, failureMark.Free body := by
  intro body hbody
  obtain ⟨g, hg, rfl⟩ := List.mem_map.mp hbody
  obtain ⟨f, hf, rfl⟩ := List.mem_map.mp hg
  have hmessage : failureMark.Free (told f).2.toList := h f hf
  have hnumber : '\n' ∉ (toString f.1).toList := Decimal.not_mem_toString (by decide) rfl
  exact (hmessage.append_left [':', ' '] (by decide)).append_left _ hnumber

/-- The text of a count ends at the first character that is no digit. -/
theorem count_inj {m n : Nat} {c : Char} {tail others : List Char} (hc : c.isDigit = false)
    (h : (toString m).toList ++ c :: tail = (toString n).toList ++ c :: others) :
    m = n ∧ tail = others := by
  obtain ⟨hcount, htail⟩ :=
    append_cons_inj (Decimal.not_mem_toString_nat hc) (Decimal.not_mem_toString_nat hc) h
  exact ⟨Int.ofNat_inj.mp (Decimal.toList_toString_inj hcount), htail⟩

/-- The last count ends where the failures begin, and these can be read back. -/
theorem failures_inj {m n : Nat} {fs gs : List (Pid × String)}
    (hfs : ∀ body ∈ fs.map failureBody, failureMark.Free body)
    (hgs : ∀ body ∈ gs.map failureBody, failureMark.Free body)
    (h : (toString m).toList ++ failureMark.blocks (fs.map failureBody) =
      (toString n).toList ++ failureMark.blocks (gs.map failureBody)) : m = n ∧ fs = gs := by
  have hcount (k : Nat) : failureMark.Free (toString k).toList :=
    Mark.free_of_first_not_mem (Decimal.not_mem_toString_nat rfl)
  obtain ⟨hnumber, hblocks⟩ := Mark.append_inj (hcount m) (hcount n) (Mark.next_blocks _)
    (Mark.next_blocks _) h
  have hbodies := Mark.blocks_inj hfs hgs hblocks
  exact ⟨Int.ofNat_inj.mp (Decimal.toList_toString_inj hnumber),
    List.map_injective_iff.mpr (fun _ _ => failureBody_inj) hbodies⟩

variable {s s' : Summary}

/-- The summary of a set with processes in it can be read back from its text. -/
theorem told_of_text_eq (hsome : s.discovered ≠ 0) (hsome' : s'.discovered ≠ 0)
    (hlegible : s.Legible) (hlegible' : s'.Legible) (h : s.text = s'.text) :
    s.discovered = s'.discovered ∧ s.insertedCount = s'.insertedCount ∧
      s.failedCount = s'.failedCount ∧ s.failed.map told = s'.failed.map told := by
  have hlists := congrArg String.toList h
  rw [toList_text hsome, toList_text hsome'] at hlists
  obtain ⟨hdiscovered, hlists⟩ := count_inj rfl (List.append_cancel_left hlists)
  obtain ⟨hinserted, hlists⟩ := count_inj rfl (List.append_cancel_left hlists)
  obtain ⟨hfailed, htold⟩ :=
    failures_inj hlegible.free hlegible'.free (List.append_cancel_left hlists)
  exact ⟨hdiscovered, hinserted, hfailed, htold⟩

theorem text_congr (hdiscovered : s.discovered = s'.discovered)
    (hinserted : s.insertedCount = s'.insertedCount) (hfailed : s.failedCount = s'.failedCount)
    (htold : s.failed.map told = s'.failed.map told) : s.text = s'.text := by
  by_cases hnone : s.discovered = 0
  · rw [text_eq_none_found_iff.mpr hnone, text_eq_none_found_iff.mpr (hdiscovered ▸ hnone)]
  · have hsome' : s'.discovered ≠ 0 := hdiscovered ▸ hnone
    apply String.toList_inj.mp
    rw [toList_text hnone, toList_text hsome', hdiscovered, hinserted, hfailed, htold]

/-- The text of a summary is faithful. It says that nothing was found exactly if the pass was over the
empty set. And where no message looks as if another failure began in it, the texts of two passes are
the same exactly if as many processes were found, as many were inserted, and the same processes failed
with the same messages, however many lines, colons and digits these have. -/
theorem text_tells_outcome {ps ps' : List Pid} {s s' : Summary} (h : s.OfPass ps)
    (h' : s'.OfPass ps') :
    (s.text = "no active network PIDs found" ↔ ps = []) ∧
    (s.Legible → s'.Legible → (s.text = s'.text ↔
      s.discovered = s'.discovered ∧ s.insertedCount = s'.insertedCount ∧
        s.failedCount = s'.failedCount ∧
        s.failed.map (fun f => (f.1, f.2.message)) = s'.failed.map fun f => (f.1, f.2.message))) := by
  refine ⟨text_eq_none_found_iff.trans h.discovered_eq_zero_iff, ?_⟩
  intro hlegible hlegible'
  constructor
  · intro htext
    have hsame : s.discovered = 0 ↔ s'.discovered = 0 := by
      rw [← text_eq_none_found_iff, htext, text_eq_none_found_iff]
    by_cases hnone : s.discovered = 0
    · obtain rfl := h.discovered_eq_zero_iff.mp hnone
      obtain rfl := h'.discovered_eq_zero_iff.mp (hsame.mp hnone)
      rw [h.eq_empty, h'.eq_empty]
      simp
    · exact told_of_text_eq hnone (mt hsame.mpr hnone) hlegible hlegible' htext
  · intro hsame
    obtain ⟨hdiscovered, hinserted, hfailed, htold⟩ := hsame
    exact text_congr hdiscovered hinserted hfailed htold

/-- Two sets in different orders and two different errors, whose message of two lines is the same. -/
theorem text_tells_outcome_of_two :
    let cause : ToolError := .failed "x" (.ofExit 1) "y exited with exit status: 1: z\n PID 7: at 8"
    let other : ToolError := .failed "x exited with exit status: 1: y" (.ofExit 1) "z\n PID 7: at 8"
    let target := fun (e : ToolError) => Target.mk "/map" fun key _ =>
      .silent (if key.pid = 9 then .error e else .ok ())
    let s : Summary := ⟨2, [7], [(9, .update cause)]⟩
    let s' : Summary := ⟨2, [7], [(9, .update other)]⟩
    ((Pass.mk (target cause) 1).reconcile (.silent (.ok [9, 7]))).result = .ok s ∧
      ((Pass.mk (target other) 3).reconcile (.silent (.ok [7, 9]))).result = .ok s' ∧
      s.Legible ∧ s'.Legible ∧ s ≠ s' ∧ s.text = s'.text ∧
      s.text ≠ "no active network PIDs found" := by
  intro cause other target s s'
  have hresult : ((Pass.mk (target cause) 1).reconcile (.silent (.ok [9, 7]))).result = .ok s := by
    decide +kernel
  have hresult' : ((Pass.mk (target other) 3).reconcile (.silent (.ok [7, 9]))).result = .ok s' := by
    decide +kernel
  have hlegible : s.Legible := by
    intro f hf
    rw [List.mem_singleton.mp hf]
    decide +kernel
  have hlegible' : s'.Legible := by
    intro f hf
    rw [List.mem_singleton.mp hf]
    decide +kernel
  obtain ⟨hnone, htext⟩ := text_tells_outcome (.intro _ _ _ (by decide) rfl hresult)
    (.intro _ _ _ (by decide) rfl hresult')
  refine ⟨hresult, hresult', hlegible, hlegible', by decide, ?_, ?_⟩
  · exact (htext hlegible hlegible').mpr ⟨rfl, rfl, rfl, by decide +kernel⟩
  · intro h
    exact absurd (hnone.mp h) (by decide)

/-- A message in which another failure seems to begin can hide which processes failed. -/
example :
    let e := fun diagnostic => WriteError.update (.failed "t" (.ofExit 1) diagnostic)
    let s : Summary := ⟨2, [], [(1, e "a\n  PID 2: t exited with exit status: 1: b"), (3, e "c")]⟩
    let s' : Summary := ⟨2, [], [(1, e "a"), (2, e "b\n  PID 3: t exited with exit status: 1: c")]⟩
    s.text = s'.text := by
  decide +kernel

end SocketCensus.Summary
