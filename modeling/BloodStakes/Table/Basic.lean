import BloodStakes.Table.Game
import BloodStakes.Table.Hand
import BloodStakes.Table.Player
import BloodStakes.Table.Round

/-! A table: a player, and the game, round and hand being played, if any. -/
namespace BloodStakes

structure Table where
  player : Player
  game? : Option Game := none
  round? : Option Round := none
  hand? : Option Hand := none
  deriving DecidableEq, Repr

/-- The cards of the open hand. -/
def Table.heldCards (t : Table) : List CardId :=
  match t.hand? with
  | some hand => if hand.isInProgress then hand.cards else []
  | none => []

end BloodStakes
