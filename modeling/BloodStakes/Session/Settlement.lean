import BloodStakes.Session.Shoe

/-! Closing a hand: effects of the outcome, the pot, the books and the discard pile. -/
namespace BloodStakes

/-- The game with one more hand in its books; all but a win count as lost. -/
def Game.record (game : Game) (status : HandStatus) : Game :=
  if status = .won then game.recordWin else game.recordLoss

/-- The session with the hand closed as `status`, its cards discarded and the game's books
kept. -/
def Session.closeHand (s : Session) (hand : Hand) (status : HandStatus) : Session :=
  { s with
    table := { s.table with
      game? := s.table.game?.map (·.record status)
      round? := s.table.round?.map fun round =>
        { round with discard := round.discard ++ hand.cards }
      hand? := some { hand with status } }
    touched := { s.touched with game := true, round := true, hand := true } }

def Outcome.phase : Outcome → Phase
  | won => .onWin
  | lost => .onLoss
  | pushed => .onPush

/-- The session with the pot paid out: to the winner, or half to each side. -/
def Session.payPot (s : Session) (outcome : Outcome) (pot : Int) : Session :=
  match outcome with
  | .won => s.changePlayerPool pot
  | .lost => s.changeDaimonPool pot
  | .pushed => (s.changePlayerPool (pot.tdiv 2)).changeDaimonPool (pot.tdiv 2)

namespace Play

/-- Closes the hand, open or not. -/
def finishHand (status : HandStatus) : Play HandStatus := do
  let current ← hand
  let playerTotal := Score.total (← ranks current.playerCards)
  let daimonTotal := Score.total (← ranks current.daimonCards)
  modify fun s => (s.closeHand current status).emit
    (.handResolved status current.pot playerTotal daimonTotal)
  return status

/-- Closes the hand by the round that has ended: won with it, else lost. -/
def closeByRound : Play HandStatus := do
  let status? := (← get).table.round?.map Round.status
  finishHand (if status? = some .won then .won else .lost)

/-- Goes on with `next` unless the round has ended, which closes the hand. -/
def unlessOver (next : Play HandStatus) : Play HandStatus := do
  if (← get).roundTerminal then closeByRound else next

/-- Fires the effects of an outcome, pays the pot and closes the hand. -/
def settle (catalog : Catalog) (outcome : Outcome) : Play HandStatus := do
  refuseIf (!(← get).handInProgress) .noHand
  modify fun s => (s.fireTable catalog outcome.phase).1
  unlessOver do
    let current ← hand
    modify fun s => s.payPot outcome current.pot
    finishHand (.ofOutcome outcome)

/-- Compares the hands and settles the outcome. -/
def resolve (catalog : Catalog) : Play HandStatus := do
  let current ← hand
  let player ← ranks current.playerCards
  let daimon ← ranks current.daimonCards
  settle catalog (.ofHands player daimon)

end Play

end BloodStakes
