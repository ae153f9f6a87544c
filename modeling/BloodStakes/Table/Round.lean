import BloodStakes.Effect.Log
import BloodStakes.Table.Violation

/-! A round: one daimon, one shoe, and hands until either side has no blood left. -/
namespace BloodStakes

inductive RoundStatus where
  | inProgress
  | won
  | lost
  deriving DecidableEq, Repr

namespace RoundStatus

def all : List RoundStatus := [inProgress, won, lost]

def id : RoundStatus → String
  | inProgress => "in_progress"
  | won => "won"
  | lost => "lost"

end RoundStatus

structure Round where
  number : Nat
  daimon : DaimonId
  daimonPool : Int
  daimonMaximum : Int
  /-- The most blood the player may hold while the round lasts. -/
  ceiling : Int
  handsPlayed : Nat
  /-- The front card is dealt next. -/
  shoe : List CardId
  discard : List CardId
  status : RoundStatus
  rewardClaimed : Bool := false
  deriving DecidableEq, Repr

namespace Round

def isInProgress (round : Round) : Bool := round.status = .inProgress

def isTerminal (round : Round) : Bool := !round.isInProgress

def check (round : Round) : Except Violation Unit :=
  match Deck.firstRepeat? [] round.shoe with
  | some card => .error (.repeatedCard card)
  | none =>
    if round.daimonPool < 0 ∨ round.daimonMaximum < round.daimonPool then
      .error .daimonPoolOutOfBounds
    else if round.ceiling < 0 then .error .ceilingBelowZero
    else .ok ()

end Round

end BloodStakes
