import BloodStakes.Amount

/-! The balance of the game: health, wagers and the bias of the shuffle. -/
namespace BloodStakes

structure Rules where
  basePlayerHealth : Int := 5000
  baseDaimonHealth : Int := 2500
  daimonScalingFactor : Float := 1.155
  minWager : Int := 500
  /-- Hands played before the wager starts climbing. -/
  flatWagerHands : Nat := 4
  wagerStep : Int := 409
  /-- Hands played after which the wager stops climbing. -/
  wagerScalingCap : Nat := 15
  deckSize : Nat := 52
  daimonStandTotal : Nat := 17
  rankBiasThreshold : Nat := 10
  rankBiasFadeRound : Nat := 5

namespace Rules

/-- A daimon's health in a round. The exponent is kept in 32 bits with a sign, so it turns
negative after round 2 ^ 31. -/
def daimonHealth (rules : Rules) (round : Nat) (doubled : Bool) : Int :=
  let exponent := ((round - 1 : Nat) : Int).bmod UInt32.size
  let health := Float.ofInt rules.baseDaimonHealth * floatPower rules.daimonScalingFactor exponent
  Amount.truncate (if doubled then health * 2 else health)

/-- What a hand costs: the same at first, then a step more with each hand until the cap. The hands
are counted in 32 bits. -/
def reckonedWager (rules : Rules) (handsPlayed : Nat) : Int :=
  if handsPlayed < rules.flatWagerHands then rules.minWager
  else
    let hands := (min handsPlayed rules.wagerScalingCap + 1) % UInt32.size
    Amount.wrap (rules.minWager + (hands - rules.flatWagerHands : Nat) * rules.wagerStep)

/-- What each side stakes on the next hand, never the last of the pool. -/
def wagerFor (rules : Rules) (handsPlayed : Nat) (bloodPool : Int) : Int :=
  min (rules.reckonedWager handsPlayed) (max (Amount.wrap (bloodPool - 1)) 0)

/-- The weight of a card in the shuffle. High ranks weigh double in the first round and fade
to the weight of all others by the fade round. -/
def rankWeight (rules : Rules) (strength round : Nat) : Float :=
  let fadeRound := max rules.rankBiasFadeRound 2
  if strength < rules.rankBiasThreshold ∨ fadeRound ≤ round then 1
  else
    let current := Float.ofNat (max round 1)
    let fade := (Float.ofNat fadeRound - current) / Float.ofNat (fadeRound - 1)
    1 + fade / current

end Rules

end BloodStakes
