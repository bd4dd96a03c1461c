import SocketCensus.Pass.Session
import SocketCensus.Pass.World

/-!
A session is a life. The eager passes, the insertions and the traffic of a session are events of
its map, so that whatever is true in every life is true after every step of a session.
-/
namespace SocketCensus

namespace World

theorem life_append {w between last : World} {deeds more : List Deed}
    (hdeeds : Life w deeds between) (hmore : Life between more last) :
    Life w (deeds ++ more) last := by
  induction hdeeds with
  | nil w => exact hmore
  | cons hnext _ ih =>
    rw [List.append_assoc]
    exact .cons hnext (ih hmore)

/-- Nothing but its own moves happens to a pass that runs alone. -/
theorem life_run {pass : Pass} {window last : Window} {steps : List (Move × Window)}
    (h : Window.Run pass.limit window steps last) (m : TrafficMap) :
    ∃ deeds, Life ⟨m, [⟨pass, window⟩]⟩ deeds
      ⟨(steps.map Prod.fst).foldl pass.effect m, [⟨pass, last⟩]⟩ := by
  induction h generalizing m with
  | nil window => exact ⟨[], .nil _⟩
  | @cons window next last move rest hmove _ ih =>
    obtain ⟨deeds, hlife⟩ := ih (pass.effect m move)
    have hnext : World.next? ⟨m, [⟨pass, window⟩]⟩ (.moved 0 move) =
        some ⟨pass.effect m move, [⟨pass, next⟩]⟩ := by
      simp [next?, hmove]
    exact ⟨_, .cons hnext hlife⟩

theorem life_reconcileBy (pass : Pass) (schedule : (ps : List Pid) → Schedule pass.limit ps)
    (source : Traced (Except ToolError (List Pid))) (m : TrafficMap) :
    ∃ deeds, Life ⟨m, []⟩ deeds
      ⟨(pass.reconcileBy schedule source).moves.foldl pass.effect m, []⟩ := by
  cases hsource : source.value with
  | error e =>
    simp only [Pass.reconcileBy, hsource]
    exact ⟨[], .nil _⟩
  | ok ps =>
    simp only [Pass.reconcileBy, hsource, Pass.writeAll]
    split
    · exact ⟨[], .nil _⟩
    · obtain ⟨last, hrun, -⟩ := (schedule ps).ends
      obtain ⟨deeds, hlife⟩ := life_run hrun m
      have hleft := life_append hlife (.cons (e := .left 0) rfl (.nil _))
      exact ⟨_, .cons (e := .discovered pass (.ok ps)) rfl hleft⟩

end World

namespace Session

theorem life_step (setup : Setup) (m : TrafficMap) (s : Step) :
    ∃ deeds, World.Life ⟨m, []⟩ deeds ⟨(step setup m s).map, []⟩ := by
  cases s with
  | pass source failures => exact World.life_reconcileBy _ _ _ m
  | insert p failures => exact ⟨_, .cons (e := .inserted _ p) rfl (.nil _)⟩
  | traffic p amount => exact ⟨_, .cons (e := .counted p amount) rfl (.nil _)⟩

/-- The map after any step of a session is the map of a life. -/
theorem life_session (setup : Setup) (m : TrafficMap) (steps : List Step) :
    ∀ record ∈ run setup m steps, ∃ deeds, World.Life ⟨m, []⟩ deeds ⟨record.map, []⟩ := by
  induction steps generalizing m with
  | nil => simp [run]
  | cons s rest ih =>
    obtain ⟨first, hfirst⟩ := life_step setup m s
    intro record hrecord
    rcases List.mem_cons.mp hrecord with rfl | hrest
    · exact ⟨first, hfirst⟩
    · obtain ⟨more, hmore⟩ := ih _ record hrest
      exact ⟨first ++ more, World.life_append hfirst hmore⟩

end Session
end SocketCensus
