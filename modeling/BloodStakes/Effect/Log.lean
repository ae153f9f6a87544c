import BloodStakes.Card
import BloodStakes.Effect.Action

/-! What is recorded when an effect entry fires. -/
namespace BloodStakes

abbrev DaimonId := Nat
abbrev TokenId := Nat

inductive EffectSource where
  | token (id : TokenId)
  | daimon (id : DaimonId)
  | card (id : CardId)
  deriving DecidableEq, Repr

inductive EffectResult where
  | playerHealth (amount bloodPool : Int)
  | daimonHealth (amount bloodPool : Int)
  | bloodWager (amount pot : Int)
  | playerMaxHealth (multiplier : Float) (ceiling : Int)
  | daimonMaxHealth (multiplier : Float) (ceiling : Int)
  | cardCount (count : Int)
  | nextCardCount (count : Int)
  | nextCard (card : CardId)
  /-- There was nothing to act on. -/
  | skipped

structure EffectLog where
  source : EffectSource
  phase : Phase
  action : Action
  result : EffectResult

end BloodStakes
