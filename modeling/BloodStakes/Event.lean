import BloodStakes.Table.Basic

/-! What happens at a table, as it is announced to the player. -/
namespace BloodStakes

inductive Event where
  | gameStarted (bloodPool : Int)
  | roundStarted (number : Nat) (daimon : DaimonId) (daimonPool : Int) (tutorial : Bool)
  | deckShuffled (cards : Nat)
  | handDealt (pot : Int) (playerCards daimonCards : List CardId)
  | cardDrawn (card : CardId) (total : Nat)
  | effectApplied (log : EffectLog)
  | handResolved (status : HandStatus) (pot : Int) (playerTotal daimonTotal : Nat)
  | roundEnded (number : Nat) (status : RoundStatus)
  | gameLost (roundsPlayed : Nat)
  | tokenClaimed (token : TokenId)

/-- The record of an effect, if the event is one. -/
def Event.effectLog? : Event → Option EffectLog
  | effectApplied log => some log
  | _ => none

end BloodStakes
