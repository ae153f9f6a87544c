import BloodStakes.Card

/-! Totals of a hand of ranks, and who wins when two hands are compared. -/
namespace BloodStakes

/-- The total a hand must not exceed. -/
def Score.limit : Nat := 21

/-- All points, with ten more if the hand holds an ace and stays within the limit. -/
def Score.total (hand : List Rank) : Nat :=
  let low := hand.foldr (fun rank low => rank.points + low) 0
  if hand.any Rank.isAce ∧ low + 10 ≤ Score.limit then low + 10 else low

/-- Two cards that make the limit. -/
def Score.isNatural (hand : List Rank) : Bool :=
  hand.length = 2 ∧ Score.total hand = Score.limit

def Score.isBust (hand : List Rank) : Bool :=
  Score.limit < Score.total hand

/-- How a hand ended, from the player's side of the table. -/
inductive Outcome where
  | won
  | lost
  | pushed
  deriving DecidableEq, Repr

/-- Naturals first, then busts (the player's before the daimon's), then totals. -/
def Outcome.ofHands (player daimon : List Rank) : Outcome :=
  match Score.isNatural player, Score.isNatural daimon with
  | true, true => .pushed
  | true, false => .won
  | false, true => .lost
  | false, false =>
    if Score.isBust player then .lost
    else if Score.isBust daimon then .won
    else if Score.total daimon < Score.total player then .won
    else if Score.total player < Score.total daimon then .lost
    else .pushed

end BloodStakes
