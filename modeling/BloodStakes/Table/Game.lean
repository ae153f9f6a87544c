import BloodStakes.Table.Violation

/-! A game: a run of rounds that lasts until one is lost. -/
namespace BloodStakes

inductive GameStatus where
  | inProgress
  | lost
  deriving DecidableEq, Repr

namespace GameStatus

def all : List GameStatus := [inProgress, lost]

def id : GameStatus → String
  | inProgress => "in_progress"
  | lost => "lost"

end GameStatus

structure Game where
  /-- Where in the story the last story daimon stood; -1 before the first. -/
  daimonProgress : Int := -1
  roundsPlayed : Nat := 0
  status : GameStatus := .inProgress
  handsWon : Nat := 0
  handsLost : Nat := 0
  winStreak : Nat := 0
  longestWinStreak : Nat := 0
  deriving DecidableEq, Repr

namespace Game

def isInProgress (game : Game) : Bool := game.status = .inProgress

def recordWin (game : Game) : Game :=
  { game with
    handsWon := game.handsWon + 1
    winStreak := game.winStreak + 1
    longestWinStreak := max game.longestWinStreak (game.winStreak + 1) }

def recordLoss (game : Game) : Game :=
  { game with handsLost := game.handsLost + 1, winStreak := 0 }

def markLost (game : Game) : Game :=
  { game with status := .lost }

def check (game : Game) : Except Violation Unit :=
  if game.daimonProgress < -1 then .error .progressBelowStart
  else if game.longestWinStreak < game.winStreak then .error .streakAboveLongest
  else .ok ()

end Game

end BloodStakes
