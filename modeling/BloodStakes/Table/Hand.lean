import BloodStakes.Score
import BloodStakes.Table.Violation

/-! A hand: a pot, the cards of both sides, and how it ended. -/
namespace BloodStakes

inductive HandStatus where
  | inProgress
  | won
  | lost
  | pushed
  deriving DecidableEq, Repr

namespace HandStatus

def all : List HandStatus := [inProgress, won, lost, pushed]

def id : HandStatus → String
  | inProgress => "in_progress"
  | won => "won"
  | lost => "lost"
  | pushed => "pushed"

def ofOutcome : Outcome → HandStatus
  | .won => won
  | .lost => lost
  | .pushed => pushed

end HandStatus

structure Hand where
  /-- The whole pot; each side has staked half. -/
  pot : Int
  playerCards : List CardId := []
  /-- The daimon's second card stays in the shoe until the hand is settled. -/
  daimonCards : List CardId := []
  status : HandStatus := .inProgress
  deriving DecidableEq, Repr

namespace Hand

def isInProgress (hand : Hand) : Bool := hand.status = .inProgress

/-- The cards of both sides, the player's first. -/
def cards (hand : Hand) : List CardId := hand.playerCards ++ hand.daimonCards

def check (hand : Hand) : Except Violation Unit :=
  if hand.pot < 0 then .error .potBelowZero else .ok ()

end Hand

end BloodStakes
