import SocketCensus.Pass.Reconcile

/-!
A session: passes, single insertions and counted traffic, one after the other on one map. The
updates are made on the map itself, except those that are set to fail.
-/
namespace SocketCensus

/-- Updates that fail, by the process they are for; the first entry for a key decides. -/
abbrev Failures := List (Pid × ToolError)

def Failures.for? (failures : Failures) (key : Key) : Option ToolError :=
  (failures.find? fun f => decide ((Key.ofPid f.1).toOption = some key)).map Prod.snd

def Failures.updater (failures : Failures) : Updater := fun key _ =>
  match failures.for? key with
  | some e => .silent (.error e)
  | none => .silent (.ok ())

namespace Session

structure Setup where
  mapPath : String
  concurrency : Nat

inductive Step
  | pass (source : Except ToolError (List Pid)) (failures : Failures)
  | insert (p : Pid) (failures : Failures)
  | traffic (p : Pid) (amount : Traffic)

inductive Answer
  | pass (result : Except ToolError Summary)
  | insert (result : Except WriteError Unit)
  | traffic (counted : Bool)

/-- A step's answer, the keys it updated, the updates it had in progress at once, its log, and
the map after it. -/
structure Record where
  answer : Answer
  updated : List Key
  peak : Nat
  logs : List Log.Entry
  map : TrafficMap

def target (setup : Setup) (failures : Failures) : Target := ⟨setup.mapPath, failures.updater⟩

def step (setup : Setup) (m : TrafficMap) : Step → Record
  | .pass source failures =>
    let pass : Pass := ⟨target setup failures, setup.concurrency⟩
    let report := pass.reconcile (.silent (source.map Pid.distinct))
    ⟨.pass report.result, report.updates.map Update.key, report.peak, report.logs,
      report.moves.foldl pass.effect m⟩
  | .insert p failures =>
    let target := target setup failures
    let inserted := target.insert p
    let updates := (target.update? p).toOption.toList
    ⟨.insert inserted.value, updates.map Update.key, updates.length, inserted.logs,
      target.commit m p⟩
  | .traffic p amount => ⟨.traffic (m.counts p), [], 0, [], m.count p amount⟩

def run (setup : Setup) : TrafficMap → List Step → List Record
  | _, [] => []
  | m, s :: rest => step setup m s :: run setup (step setup m s).map rest

end Session
end SocketCensus
