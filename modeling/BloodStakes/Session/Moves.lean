import BloodStakes.Session.Settlement

/-! A hand from its stakes to its end: the deal, and the moves of the player. -/
namespace BloodStakes

/-- Whether the cards are over the limit; unknown cards count as over it. -/
def Hand.isPlayerBust (hand : Hand) : Bool :=
  match ranksOf hand.playerCards with
  | .ok ranks => Score.isBust ranks
  | .error _ => true

namespace Session

/-- The moves the tutorial prescribes for a round, by how many cards have left its shoe. -/
def scriptedMoves? (s : Session) (round : Round) : Option (List Move) :=
  if s.table.player.tutorialFinished then none
  else tutorialMoves? (tutorialDeck.length - round.shoe.length)

/-- The moves that can be made on the open hand. Drawing and standing need a hand that is not
bust, surrender one of two cards; doubling down is never offered. -/
def availableMoves (s : Session) : List Move :=
  match s.table.hand?, s.table.round? with
  | some hand, some round =>
    if hand.isInProgress ∧ round.isInProgress then
      match s.scriptedMoves? round with
      | some moves => moves
      | none =>
        (if hand.isPlayerBust then [] else [.draw, .stand])
          ++ if hand.playerCards.length = 2 then [.surrender] else []
    else []
  | _, _ => []

/-- The session with a new hand opened for twice the wager. -/
def openHand (s : Session) (round : Round) (wager : Int) : Session :=
  (s.putRound { round with handsPlayed := round.handsPlayed + 1 }).putHand
    { pot := Amount.wrap (wager * 2) }

end Session

namespace Play

/-- What each side stakes on the next hand. -/
def wager (rules : Rules) : Play Int := do
  let current ← round
  return rules.wagerFor current.handsPlayed (← get).table.player.bloodPool

/-- Deals the opening cards, fires the hand's start and settles a natural. -/
def dealHand (house : House) : Play HandStatus := do
  let _ ← deal house.rules .player 2
  let _ ← deal house.rules .daimon 1
  let dealt ← hand
  modify fun s => s.emit (.handDealt dealt.pot dealt.playerCards dealt.daimonCards)
  modify fun s => (s.fireTable house.catalog .handStart).1
  unlessOver do
    let playerRanks ← ranks (← hand).playerCards
    if Score.isNatural playerRanks then
      let _ ← deal house.rules .daimon 1
      resolve house.catalog
    else return .inProgress

/-- Opens a hand: both sides stake, then cards are dealt. A player who cannot stake anything
forfeits all blood. -/
def startHand (house : House) : Play HandStatus := do
  match (← get).table.round? with
  | none => throw .noRound
  | some round =>
    refuseIf round.isTerminal .roundOver
    refuseIf (← get).handInProgress .handInProgress
    let stake ← wager house.rules
    modify fun s => s.openHand round stake
    if stake = 0 then
      modify fun s => s.changePlayerPool (-s.table.player.bloodPool)
      closeByRound
    else
      modify fun s => s.payStakes stake
      unlessOver (dealHand house)

def ensureAvailable (move : Move) : Play Unit := do
  let s ← get
  refuseIf (!s.handInProgress) .noHand
  refuseIf (!s.availableMoves.contains move) (.moveNotAvailable move)

/-- Deals the player one card; a bust settles the hand. -/
def draw (house : House) : Play CardId := do
  ensureAvailable .draw
  match ← deal house.rules .player 1 with
  | [] => throw .deckExhausted
  | card :: _ =>
    let playerRanks ← ranks (← hand).playerCards
    modify fun s => s.emit (.cardDrawn card (Score.total playerRanks))
    modify fun s => (s.fireCards .handStart [card]).1
    if (← get).roundTerminal then
      let _ ← closeByRound
    else if Score.isBust playerRanks then
      let _ ← resolve house.catalog
    return card

/-- The daimon draws until it stands or no card is left; `fuel` bounds its draws. -/
def drawToStand (rules : Rules) : (fuel : Nat) → Play Unit
  | 0 => return
  | fuel + 1 => do
    let daimonRanks ← ranks (← hand).daimonCards
    if rules.daimonStandTotal ≤ Score.total daimonRanks then return
    else
      match ← deal rules .daimon 1 with
      | [] => return
      | _ :: _ => drawToStand rules fuel

/-- A bound on the cards that can still be drawn: the shoe, and what one refill puts back. -/
def drawBound : Play Nat := do
  match (← get).table.round? with
  | some round => return round.shoe.length + round.discard.length + tutorialDeck.length + 1
  | none => return 0

/-- The daimon plays its hand, then both are compared. -/
def stand (house : House) : Play HandStatus := do
  ensureAvailable .stand
  drawToStand house.rules (← drawBound)
  resolve house.catalog

/-- Gives up the hand for a quarter of the pot. -/
def surrender (house : House) : Play HandStatus := do
  ensureAvailable .surrender
  modify fun s => (s.fireTable house.catalog .onLoss).1
  unlessOver do
    let pot := (← hand).pot
    let refund := pot.tdiv 4
    modify fun s => (s.changePlayerPool refund).changeDaimonPool (pot - refund)
    finishHand .lost

def doubleDown : Play HandStatus := do
  refuseIf (!(← get).handInProgress) .noHand
  throw (.moveUnsupported .doubleDown)

end Play

end BloodStakes
