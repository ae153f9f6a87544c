import BloodStakes.Card
import BloodStakes.Move

/-! Decks a player may play, and the fixed deck of the tutorial with its script. -/
namespace BloodStakes

/-- The shoe dealt until the player has finished the tutorial. -/
def tutorialDeck : List CardId :=
  [279, 277, 266, 281, 282, 308, 280, 274, 284, 271, 278, 264, 305, 283, 285, 272, 310, 286, 311,
    273, 270, 268, 292]

/-- The moves the tutorial prescribes once so many cards have left its shoe. -/
def tutorialMoves? : (dealt : Nat) → Option (List Move)
  | 3 => some [.draw]
  | 4 | 8 => some [.stand]
  | 13 => some [.surrender]
  | _ => none

inductive DeckError where
  | wrongSize (expected got : Nat)
  | duplicate (card : CardId)
  | notOwned (card : CardId)
  deriving DecidableEq, Repr

def DeckError.message : DeckError → String
  | .wrongSize expected got => s!"deck must have exactly {expected} cards, got {got}"
  | .duplicate card => s!"deck contains duplicate card id {card}"
  | .notOwned card => s!"card {card} is not owned by the player"

namespace Deck

/-- The first card that stands among `seen` or earlier in the list. -/
def firstRepeat? (seen : List CardId) : List CardId → Option CardId
  | [] => none
  | card :: cards => if card ∈ seen then some card else firstRepeat? (card :: seen) cards

def ensureUnique (cards : List CardId) : Except DeckError Unit :=
  match firstRepeat? [] cards with
  | some card => .error (.duplicate card)
  | none => .ok ()

/-- A playable deck has the right size, no card twice, and only cards the player owns. -/
def validate (cards : List CardId) (size : Nat) (owns : CardId → Bool) : Except DeckError Unit := do
  if cards.length ≠ size then .error (.wrongSize size cards.length)
  else
    ensureUnique cards
    match cards.find? fun card => !owns card with
    | some card => .error (.notOwned card)
    | none => .ok ()

end Deck

end BloodStakes
