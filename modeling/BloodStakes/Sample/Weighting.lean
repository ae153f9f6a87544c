/-! Weights of items, as the product of three independent factors. -/
namespace BloodStakes

/-- A factor that is not set leaves the weight as it is. -/
structure Weighting (α : Type) where
  rank : α → Float := fun _ => 1
  effect : α → Float := fun _ => 1
  suit : α → Float := fun _ => 1

def Weighting.weights {α : Type} (weighting : Weighting α) (items : List α) : List Float :=
  items.map fun item => weighting.rank item * weighting.effect item * weighting.suit item

end BloodStakes
