import SocketCensus.Pass.Reconcile

/-!
The life of a map. Passes are begun, make their moves and are left, single entries are inserted,
and the kernel counts traffic, all of it in any order: traffic may be counted between any two
moves of a pass, passes may overlap, and a pass may be left before its end. What happens to the
entries is told by the deeds of a life.
-/
namespace SocketCensus

structure Underway where
  pass : Pass
  window : Window

structure World where
  map : TrafficMap
  underway : List Underway

inductive Event
  | discovered (pass : Pass) (found : Except ToolError (List Pid))
  | moved (index : Nat) (move : Move)
  | left (index : Nat)
  | inserted (target : Target) (p : Pid)
  | counted (p : Pid) (amount : Traffic)

/-- Something done to the entry of a process, or tried in vain. -/
inductive Deed
  | wrote (p : Pid) (result : Except WriteError Unit)
  | counted (p : Pid) (amount : Traffic)

namespace World

def opening : World := ⟨TrafficMap.empty, []⟩

/-- The world after an event, if the event is possible: the moves of a pass are those that its
window allows. -/
def next? (w : World) : Event → Option World
  | .discovered _ (.error _) => some w
  | .discovered pass (.ok ps) =>
    some { w with underway := w.underway ++ [⟨pass, Window.opening ps⟩] }
  | .moved index move =>
    match w.underway[index]? with
    | none => none
    | some u =>
      (u.window.move? u.pass.limit move).map fun window =>
        ⟨u.pass.effect w.map move, w.underway.set index ⟨u.pass, window⟩⟩
  | .left index => some { w with underway := w.underway.eraseIdx index }
  | .inserted target p => some { w with map := target.commit w.map p }
  | .counted p amount => some { w with map := w.map.count p amount }

/-- The deed behind an event: a write is done when it finishes, with its outcome. -/
def deed? (w : World) : Event → Option Deed
  | .moved index (.finish p) =>
    w.underway[index]?.map fun u => .wrote p (u.pass.target.outcome p)
  | .inserted target p => some (.wrote p (target.outcome p))
  | .counted p amount => some (.counted p amount)
  | _ => none

/-- Events one after the other, told by their deeds. -/
inductive Life : World → List Deed → World → Prop
  | nil (w : World) : Life w [] w
  | cons {w next last : World} {e : Event} {deeds : List Deed} :
      w.next? e = some next → Life next deeds last → Life w ((w.deed? e).toList ++ deeds) last

end World
end SocketCensus
