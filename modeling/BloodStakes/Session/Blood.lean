import BloodStakes.Session.Basic

/-!
Blood pools and the pot. Every change of a pool or of a maximum is followed by a look at
both pools: the round ends as soon as one of them is empty, and only once.
-/
namespace BloodStakes.Session

/-- The most blood the player may hold: the round's ceiling while there is a round. -/
def ceiling (s : Session) : Int :=
  match s.table.round? with
  | some round => round.ceiling
  | none => s.table.player.maxBloodPool

/-- `pool` and `delta` together, but no less than zero and no more than `maximum`. -/
def clampedSum (pool delta maximum : Int) : Int :=
  max 0 (min (pool + delta) (max maximum 0))

/-- The first round that ends ends the tutorial. -/
def finishTutorial (s : Session) : Session :=
  if s.table.player.tutorialFinished then s
  else s.putPlayer { s.table.player with tutorialFinished := true }

def loseGame (s : Session) : Session :=
  match s.table.game? with
  | some game => (s.putGame game.markLost).emit (.gameLost game.roundsPlayed)
  | none => s

def endRound (s : Session) (round : Round) (status : RoundStatus) : Session :=
  let s := (s.putRound { round with status }).emit (.roundEnded round.number status)
  let s := s.finishTutorial
  if status = .lost then s.loseGame else s

/-- Ends a round in progress if a pool is empty; the player's counts first. -/
def settleRound (s : Session) : Session :=
  match s.table.round? with
  | none => s
  | some round =>
    if round.isTerminal then s
    else if s.table.player.bloodPool ≤ 0 then s.endRound round .lost
    else if round.daimonPool ≤ 0 then s.endRound round .won
    else s

/-- Adds `delta` to the player's pool, between zero and the ceiling. -/
def changePlayerPool (s : Session) (delta : Int) : Session :=
  let player := s.table.player
  (s.putPlayer { player with
    bloodPool := clampedSum player.bloodPool delta s.ceiling }).settleRound

/-- Adds `delta` to the daimon's pool, between zero and its maximum; nothing happens without
a round. -/
def changeDaimonPool (s : Session) (delta : Int) : Session :=
  match s.table.round? with
  | none => s
  | some round =>
    (s.putRound { round with
      daimonPool := clampedSum round.daimonPool delta round.daimonMaximum }).settleRound

/-- Takes a stake from both pools, the daimon's first. -/
def payStakes (s : Session) (stake : Int) : Session :=
  (s.changeDaimonPool (Amount.wrap (-stake))).changePlayerPool (Amount.wrap (-stake))

/-- Puts a ceiling in force: the round's, or the player's own maximum without a round. -/
def putCeiling (s : Session) (ceiling : Int) : Session :=
  match s.table.round? with
  | some round => s.putRound { round with ceiling }
  | none => s.putPlayer { s.table.player with maxBloodPool := ceiling }

/-- Scales the ceiling; blood above it is lost. -/
def scaleCeiling (s : Session) (multiplier : Float) : Session :=
  let ceiling := Amount.scale s.ceiling multiplier
  let s := s.putCeiling ceiling
  let player := s.table.player
  (s.putPlayer { player with bloodPool := min player.bloodPool ceiling }).settleRound

/-- Scales the daimon's maximum; blood above it is lost. -/
def scaleDaimonMaximum (s : Session) (multiplier : Float) : Session :=
  match s.table.round? with
  | none => s
  | some round =>
    let maximum := Amount.scale round.daimonMaximum multiplier
    (s.putRound { round with
      daimonMaximum := maximum, daimonPool := min round.daimonPool maximum }).settleRound

/-- Adds `delta` to the pot, between zero and the greatest amount. -/
def changePot (s : Session) (delta : Int) : Session :=
  match s.table.hand? with
  | none => s
  | some hand => s.putHand { hand with pot := max 0 (min (hand.pot + delta) Amount.greatest) }

end BloodStakes.Session
