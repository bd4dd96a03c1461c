import SocketCensus.Program.Launch

/-!
What the run of a tool comes to. A run counts only if the program exited with status 0; whatever
else becomes of it is a fault that names the program as it was asked for, and that carries the
diagnostic of this very run. A call is recorded for a program that ran to its end, and its command is
logged if the program was found at all.
-/
namespace SocketCensus

theorem WaitStatus.success_eq_true_iff {w : WaitStatus} : w.success = true ↔ w = .ofExit 0 := by
  obtain ⟨word⟩ := w
  simp [success, ofExit]

theorem WaitStatus.eq_ofExit_zero_iff {w : WaitStatus} : w = .ofExit 0 ↔ w.word = 0 := by
  obtain ⟨word⟩ := w
  simp [ofExit]

namespace Reply

inductive Fault (program : String) (limit : Duration) : Reply → ToolError → Prop
  | missing : Fault program limit .missing (.launch (.notFound program))
  | unstartable (error : StartError) :
      Fault program limit (.unstartable error) (.launch (.spawn program error))
  | outlived : Fault program limit .outlived (.launch (.timeout program limit))
  | finished (result : Finished) (hstatus : result.status ≠ .ofExit 0) :
      Fault program limit (.finished result) (.failed program result.status
        (String.ofList (Text.trim (Utf8.decodeLossy result.stderr))))

theorem exists_fault_iff {program : String} {limit : Duration} {r : Reply} :
    (∃ e, r.Fault program limit e) ↔ r = .missing ∨ (∃ cause, r = .unstartable cause) ∨
      r = .outlived ∨ ∃ result, r = .finished result ∧ result.status ≠ .ofExit 0 := by
  constructor
  · intro h
    obtain ⟨e, hfault⟩ := h
    cases hfault with
    | missing => exact .inl rfl
    | unstartable cause => exact .inr (.inl ⟨cause, rfl⟩)
    | outlived => exact .inr (.inr (.inl rfl))
    | finished result hstatus => exact .inr (.inr (.inr ⟨result, rfl, hstatus⟩))
  · rintro (rfl | ⟨cause, rfl⟩ | rfl | ⟨result, rfl, hstatus⟩)
    · exact ⟨_, .missing⟩
    · exact ⟨_, .unstartable cause⟩
    · exact ⟨_, .outlived⟩
    · exact ⟨_, .finished result hstatus⟩

def ran : Reply → Bool
  | .finished _ => true
  | _ => false

theorem ran_eq_true_iff {r : Reply} : r.ran = true ↔ ∃ result, r = .finished result := by
  cases r <;> simp [ran]

def found : Reply → Bool
  | .missing => false
  | _ => true

end Reply

variable {machine : Machine} {limit : Duration} {program : String} {arguments : List String}

theorem runTool_eq_ok_iff (limit : Duration) {result : Finished} :
    (runTool machine limit program arguments).value = .ok result ↔
      attempt machine program arguments = .finished result ∧ result.status = .ofExit 0 := by
  unfold runTool launch
  generalize attempt machine program arguments = reply
  constructor
  · intro h
    cases reply with
    | missing => cases h
    | unstartable cause => cases h
    | outlived => cases h
    | finished own =>
      dsimp only at h
      split at h
      · rename_i hsuccess
        cases h
        exact ⟨rfl, WaitStatus.success_eq_true_iff.mp hsuccess⟩
      · cases h
  · intro h
    obtain ⟨rfl, hstatus⟩ := h
    simp [WaitStatus.success_eq_true_iff.mpr hstatus]

theorem runTool_eq_error_iff {e : ToolError} :
    (runTool machine limit program arguments).value = .error e ↔
      (attempt machine program arguments).Fault program limit e := by
  unfold runTool launch
  generalize attempt machine program arguments = reply
  constructor
  · intro h
    cases reply with
    | missing =>
      cases h
      exact .missing
    | unstartable cause =>
      cases h
      exact .unstartable cause
    | outlived =>
      cases h
      exact .outlived
    | finished own =>
      dsimp only at h
      split at h
      · cases h
      · rename_i hfailure
        cases h
        exact .finished own fun hstatus => hfailure (WaitStatus.success_eq_true_iff.mpr hstatus)
  · intro h
    cases h with
    | missing => rfl
    | unstartable cause => rfl
    | outlived => rfl
    | finished own hstatus =>
      have hfailure : own.status.success = false := by
        rw [← Bool.not_eq_true, WaitStatus.success_eq_true_iff]
        exact hstatus
      simp [hfailure, Finished.diagnostic]

theorem calls_runTool : (runTool machine limit program arguments).calls =
    if (attempt machine program arguments).ran then [⟨program, arguments⟩] else [] := by
  unfold runTool launch
  cases attempt machine program arguments <;> rfl

def launchLogs (machine : Machine) (program : String) (arguments : List String) : List Log.Entry :=
  if (attempt machine program arguments).found then
    [Log.debug s!"running {machine.command program arguments}"]
  else []

theorem logs_runTool :
    (runTool machine limit program arguments).logs = launchLogs machine program arguments := by
  unfold runTool launch launchLogs
  cases attempt machine program arguments <;> rfl

theorem level_of_mem_launchLogs {entry : Log.Entry} (h : entry ∈ launchLogs machine program arguments) :
    entry.level = .debug := by
  unfold launchLogs at h
  split at h
  · rw [List.mem_singleton.mp h]
    rfl
  · contradiction

/-- Two machines do the same with a call, and show it in the same way. -/
structure Machine.Agree (machine others : Machine) (call : Call) : Prop where
  reply : machine call.program call.arguments = others call.program call.arguments
  command : machine.command call.program call.arguments = others.command call.program call.arguments

/-- A run depends on what the machine does with this very call. -/
theorem runTool_congr {others : Machine} (h : machine.Agree others ⟨program, arguments⟩) :
    runTool machine limit program arguments = runTool others limit program arguments := by
  unfold runTool launch attempt
  rw [h.reply, h.command]

end SocketCensus
