import BloodStakes.Sample.Weighting
import BloodStakes.Session.Effects
import BloodStakes.Session.Play

/-!
The shoe: shuffled anew at the start of a round, refilled from the discard pile when it
runs empty, and dealt from the front. Until the tutorial is finished it holds the fixed
tutorial deck instead.
-/
namespace BloodStakes

/-- The session with a fresh shoe and an empty discard pile. -/
def Session.fillShoe (s : Session) (round : Round) (shoe : List CardId) : Session :=
  (s.putRound { round with shoe, discard := [] }).emit (.deckShuffled shoe.length)

namespace Play

def fillShoe (shoe : List CardId) : Play Unit := do
  let current ← round
  modify fun s => s.fillShoe current shoe

/-- Every card once, in an order in which high ranks tend to the front of early rounds. -/
def weightedShuffle (rules : Rules) (cards : List CardId) (number : Nat) :
    Play (List CardId) := do
  let faces ← ranks cards
  let weighting : Weighting Rank := { rank := fun r => rules.rankWeight r.strength number }
  let (order, rng) ←
    ofExcept .sample (sample cards (weighting.weights faces) cards.length (← get).rng)
  modify fun s => { s with rng }
  return order

/-- Fills the shoe with the player's deck, or with the tutorial deck. -/
def shuffleDeck (rules : Rules) : Play Unit := do
  let number := (← round).number
  let player := (← get).table.player
  if player.tutorialFinished then fillShoe (← weightedShuffle rules player.deck number)
  else fillShoe tutorialDeck

/-- What goes back into an empty shoe: the discard pile, or all tutorial cards not held. -/
def refill (rules : Rules) (round : Round) : Play (List CardId) := do
  let s ← get
  if s.table.player.tutorialFinished then weightedShuffle rules round.discard round.number
  else return tutorialDeck.filter fun card => !s.table.heldCards.contains card

/-- Refills the shoe if it is empty and anything can go back; says whether it did. -/
def reshuffleIfEmpty (rules : Rules) : Play Bool := do
  match (← get).table.round? with
  | none => return false
  | some round =>
    if round.shoe.isEmpty then
      let shoe ← refill rules round
      if shoe.isEmpty then return false
      else
        fillShoe shoe
        return true
    else return false

/-- Takes the front card of the shoe, refilled if need be. -/
def nextCard (rules : Rules) : Play (Option CardId) := do
  let _ ← reshuffleIfEmpty rules
  let current ← round
  match current.shoe with
  | [] => return none
  | card :: shoe =>
    modify fun s => s.putRound { current with shoe }
    return some card

def takeCards (rules : Rules) : (count : Nat) → Play (List CardId)
  | 0 => return []
  | count + 1 => do
    match ← nextCard rules with
    | none => return []
    | some card => return card :: (← takeCards rules count)

def deal (rules : Rules) (side : Side) (count : Nat) : Play (List CardId) := do
  let _ ← hand
  let cards ← takeCards rules count
  let current ← hand
  match side with
  | .player =>
    modify fun s => s.putHand { current with playerCards := current.playerCards ++ cards }
  | .daimon =>
    modify fun s => s.putHand { current with daimonCards := current.daimonCards ++ cards }
  return cards

end Play

end BloodStakes
