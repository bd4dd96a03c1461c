import SocketCensus.Pass.Schedule
import SocketCensus.Pass.Summary

/-!
A pass writes an entry for every discovered process, with a bounded number of updates at once.
No failed write ends it; a failed discovery ends it before the first write.
-/
namespace SocketCensus

structure Pass where
  target : Target
  concurrency : Nat

namespace Pass

/-- At least one write at a time, or nothing would ever be written. -/
def limit (pass : Pass) : Nat := max 1 pass.concurrency

theorem limit_pos (pass : Pass) : 0 < pass.limit := Nat.le_max_left 1 pass.concurrency

def warning (p : Pid) (e : WriteError) : Log.Entry := Log.warn s!"failed to insert PID {p}: {e.message}"

def writeLogs (pass : Pass) (p : Pid) : List Log.Entry :=
  (pass.target.write p).logs ++
    match pass.target.outcome p with
    | .error e => [warning p e]
    | .ok () => []

/-- The effect of a move on the map: a write that succeeds takes effect when it finishes. -/
def effect (pass : Pass) (m : TrafficMap) : Move → TrafficMap
  | .start _ => m
  | .finish p => pass.target.commit m p

structure Report where
  result : Except ToolError Summary
  updates : List Update
  calls : List Call
  logs : List Log.Entry
  moves : List Move
  peak : Nat

def finished (moves : List Move) : List Pid :=
  moves.filterMap fun
    | .finish p => some p
    | .start _ => none

def started (moves : List Move) : List Pid :=
  moves.filterMap fun
    | .start p => some p
    | .finish _ => none

/-- The updates made: each when its write starts, and none for a process without a key. -/
def updates (pass : Pass) (moves : List Move) : List Update :=
  (started moves).filterMap fun p => (pass.target.update? p).toOption

/-- Writes the discovered processes as scheduled; an empty discovery leaves nothing to do. -/
def writeAll (pass : Pass) (ps : List Pid) (schedule : Schedule pass.limit ps) : Report :=
  if ps = [] then
    ⟨.ok Summary.empty, [], [], [Log.debug "no PIDs discovered, nothing to write"], [], 0⟩
  else
    let order := finished schedule.moves
    { result := .ok (Summary.ofOutcomes ps.length (order.map fun p => (p, pass.target.outcome p)))
      updates := pass.updates schedule.moves
      calls := order.flatMap fun p => (pass.target.write p).calls
      logs := Log.info s!"found {ps.length} active network PIDs" :: order.flatMap pass.writeLogs
      moves := schedule.moves
      peak := Window.peak schedule.steps }

def reconcileBy (pass : Pass) (schedule : (ps : List Pid) → Schedule pass.limit ps)
    (source : Traced (Except ToolError (List Pid))) : Report :=
  match source.value with
  | .error e => ⟨.error e, [], source.calls, source.logs, [], 0⟩
  | .ok ps =>
    let report := pass.writeAll ps (schedule ps)
    { report with calls := source.calls ++ report.calls, logs := source.logs ++ report.logs }

def reconcile (pass : Pass) (source : Traced (Except ToolError (List Pid))) : Report :=
  pass.reconcileBy (Schedule.eager pass.limit_pos) source

def along (pass : Pass) (course : Course) (source : Traced (Except ToolError (List Pid))) : Report :=
  pass.reconcileBy (course.schedule pass.limit_pos)
    { source with value := source.value.map course.order }

end Pass
end SocketCensus
