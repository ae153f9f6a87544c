/-! What the player may do with an open hand. -/
namespace BloodStakes

inductive Move where
  | draw
  | stand
  | doubleDown
  | surrender
  deriving DecidableEq, Repr

namespace Move

def all : List Move := [draw, stand, doubleDown, surrender]

def id : Move → String
  | draw => "draw"
  | stand => "stand"
  | doubleDown => "double_down"
  | surrender => "surrender"

def label : Move → String
  | draw => "Draw"
  | stand => "Stand"
  | doubleDown => "DoubleDown"
  | surrender => "Surrender"

end Move

end BloodStakes
