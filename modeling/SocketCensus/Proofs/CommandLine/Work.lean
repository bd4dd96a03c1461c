import SocketCensus.CommandLine.Run
import SocketCensus.Proofs.Discovery.SocketTool
import SocketCensus.Proofs.Pass.Agreement

/-!
The work of a run: one insertion or one pass. It has a purpose that it achieves or not, a text that
tells what came of it, and calls that belong to it; no other call could make a difference to it.
-/
namespace SocketCensus.CommandLine

variable (machine : Machine) (settings : Settings) (options : Options)

def entryCall (p : Pid) : Call := ⟨settings.bpftoolPath, MapTool.entryArguments options.mapPath p⟩

def Listed (listing : Finished) : Prop :=
  attempt machine settings.ssPath SocketTool.defaultArguments = .finished listing ∧
    listing.status = .ofExit 0

/-- The work succeeds: the sockets are listed, or the one write is made or shown. -/
def Achieved : Prop :=
  match options.pid with
  | none => ∃ listing, Listed machine settings listing
  | some p => Key.Fits p ∧ (options.dryRun = true ∨
      ∃ result, attempt machine settings.bpftoolPath (MapTool.entryArguments options.mapPath p) =
        .finished result ∧ result.status = .ofExit 0)

/-- The calls that belong to the work: for a pass the listing and, once that is there, the entries of
the processes listed, for an insertion the one entry, and no entries in a dry run. -/
def Permitted (call : Call) : Prop :=
  match options.pid with
  | none => call = ⟨settings.ssPath, SocketTool.defaultArguments⟩ ∨ options.dryRun = false ∧
      ∃ listing, Listed machine settings listing ∧
        ∃ p ∈ SocketTool.pidsOfOutput listing.stdout, Key.Fits p ∧ call = entryCall settings options p
  | some p => options.dryRun = false ∧ Key.Fits p ∧ call = entryCall settings options p

def Reports (text : String) : Prop :=
  match options.pid with
  | none => ∃ (listing : Finished) (s : Summary), Listed machine settings listing ∧
      s.Accounts (target machine settings options) (SocketTool.pidsOfOutput listing.stdout) ∧
      text = s.text
  | some p => text = s!"Added PID {p} to the BPF map at {options.mapPath}."

variable {machine settings options}

theorem discover_eq_ok_iff {found : List Pid} :
    ((listTool settings).discover machine).value = .ok found ↔
      ∃ listing, Listed machine settings listing ∧ found = SocketTool.pidsOfOutput listing.stdout := by
  simp only [SocketTool.discover_eq_ok_iff, Listed, listTool, and_assoc]

theorem work_of_some {p : Pid} (course : Course) (h : options.pid = some p) :
    work course machine settings options = insertion (target machine settings options) p := by
  simp only [work, h]

theorem work_of_none (course : Course) (h : options.pid = none) :
    work course machine settings options =
      fullPass course ⟨target machine settings options, settings.writeConcurrency⟩
        ((listTool settings).discover machine) := by
  simp only [work, h]

theorem insertion_eq_ok_iff {t : Target} {p : Pid} {text : String} :
    (insertion t p).result = .ok text ↔
      t.outcome p = .ok () ∧ text = s!"Added PID {p} to the BPF map at {t.mapPath}." := by
  rw [← t.value_insert]
  unfold insertion
  dsimp only
  split <;> simp [*, eq_comm]

theorem fullPass_eq_ok_iff {course : Course} {pass : Pass}
    {source : Traced (Except ToolError (List Pid))} {text : String} :
    (fullPass course pass source).result = .ok text ↔
      ∃ s, (pass.along course source).result = .ok s ∧ text = s.text := by
  unfold fullPass
  dsimp only
  split <;> simp [*, eq_comm]

/-- The work ends well exactly if it achieves its purpose, and then it tells the truth about it. -/
theorem work_eq_ok_iff (course : Course) {text : String} :
    (work course machine settings options).result = .ok text ↔
      Achieved machine settings options ∧ Reports machine settings options text := by
  cases hpid : options.pid with
  | some p =>
    rw [work_of_some course hpid, insertion_eq_ok_iff, target, MapTool.outcome_eq_ok_iff_dryRun_or]
    simp only [Achieved, Reports, hpid]
    rfl
  | none =>
    rw [work_of_none course hpid, fullPass_eq_ok_iff]
    simp only [Pass.result_along_eq_ok_iff _ course fun _ => SocketTool.nodup_of_discover,
      discover_eq_ok_iff, Achieved, Reports, hpid]
    constructor
    · intro h
      obtain ⟨s, ⟨-, ⟨listing, hlisted, rfl⟩, hs⟩, htext⟩ := h
      exact ⟨⟨listing, hlisted⟩, listing, s, hlisted, hs, htext⟩
    · intro h
      obtain ⟨-, listing, s, hlisted, hs, htext⟩ := h
      exact ⟨s, ⟨_, ⟨listing, hlisted, rfl⟩, hs⟩, htext⟩

theorem exists_reports (h : Achieved machine settings options) :
    ∃ text, Reports machine settings options text := by
  cases hpid : options.pid with
  | some p =>
    refine ⟨s!"Added PID {p} to the BPF map at {options.mapPath}.", ?_⟩
    simp only [Reports, hpid]
  | none =>
    simp only [Achieved, hpid] at h
    obtain ⟨listing, hlisted⟩ := h
    have hset : (SocketTool.pidsOfOutput listing.stdout).Nodup := Pid.nodup_distinct _
    obtain ⟨s, hs⟩ : ∃ s : Summary, s.Accounts (target machine settings options)
        (SocketTool.pidsOfOutput listing.stdout) :=
      ⟨_, Summary.accounts_ofOutcomes _ hset (.refl _)⟩
    refine ⟨s.text, ?_⟩
    simp only [Reports, hpid]
    exact ⟨listing, s, hlisted, hs, rfl⟩

theorem mem_calls_work (course : Course) {call : Call} :
    call ∈ (work course machine settings options).calls ↔
      Permitted machine settings options call ∧
        (attempt machine call.program call.arguments).ran = true := by
  cases hpid : options.pid with
  | some p =>
    rw [work_of_some course hpid]
    simp only [insertion, Target.calls_insert, Permitted, hpid]
    exact MapTool.mem_calls_write
  | none =>
    rw [work_of_none course hpid]
    simp only [Permitted, hpid, fullPass, Pass.mem_calls_along, discover_eq_ok_iff,
      SocketTool.mem_calls_discover]
    constructor
    · intro h
      rcases h with ⟨hcall, hran⟩ | ⟨-, ⟨listing, hlisted, rfl⟩, p, hp, hcall⟩
      · exact ⟨.inl hcall, hran⟩
      · obtain ⟨⟨hreal, hfits, hcall⟩, hran⟩ := MapTool.mem_calls_write.mp hcall
        exact ⟨.inr ⟨hreal, listing, hlisted, p, hp, hfits, hcall⟩, hran⟩
    · intro h
      rcases h with ⟨hcall | ⟨hreal, listing, hlisted, p, hp, hfits, hcall⟩, hran⟩
      · exact .inl ⟨hcall, hran⟩
      · exact .inr ⟨_, ⟨listing, hlisted, rfl⟩, p, hp,
          MapTool.mem_calls_write.mpr ⟨⟨hreal, hfits, hcall⟩, hran⟩⟩

/-- Whatever else a machine would do, the calls that are permitted decide about the work. -/
theorem work_congr (course : Course) {others : Machine}
    (h : ∀ call, Permitted machine settings options call → machine.Agree others call) :
    work course machine settings options = work course others settings options := by
  cases hpid : options.pid with
  | some p =>
    simp only [Permitted, hpid] at h
    have hagree : (target machine settings options).Agree (target others settings options) p :=
      MapTool.agree_of_machine_agree fun hreal hfits => h (entryCall settings options p) ⟨hreal, hfits, rfl⟩
    rw [work_of_some course hpid, work_of_some course hpid]
    simp only [insertion, hagree.insert_eq, hagree.mapPath_eq]
  | none =>
    simp only [Permitted, hpid] at h
    have hsource : (listTool settings).discover machine = (listTool settings).discover others :=
      SocketTool.discover_congr (h ⟨settings.ssPath, SocketTool.defaultArguments⟩ (.inl rfl))
    have hagree (found : List Pid) (hfound : ((listTool settings).discover machine).value = .ok found)
        (p : Pid) (hp : p ∈ found) :
        (target machine settings options).Agree (target others settings options) p := by
      obtain ⟨listing, hlisted, rfl⟩ := discover_eq_ok_iff.mp hfound
      exact MapTool.agree_of_machine_agree fun hreal hfits =>
        h (entryCall settings options p) (.inr ⟨hreal, listing, hlisted, p, hp, hfits, rfl⟩)
    rw [work_of_none course hpid, work_of_none course hpid, ← hsource]
    unfold fullPass
    rw [Pass.along_congr course _ hagree]

end SocketCensus.CommandLine
