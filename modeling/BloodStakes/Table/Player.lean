import BloodStakes.Loadout
import BloodStakes.Rules
import BloodStakes.Table.Violation

/-! The player: blood, cards, tokens and lasting records. -/
namespace BloodStakes

abbrev PlayerId := Nat

structure Player where
  id : PlayerId
  username : String
  isGuest : Bool := false
  bloodPool : Int
  maxBloodPool : Int
  storyProgression : Nat := 0
  gamesPlayed : Nat := 0
  tutorialFinished : Bool := false
  maxRoundReached : Nat := 0
  maxDaimonHealthReached : Int := 0
  /-- Every card the player owns. -/
  cards : List CardId
  /-- The cards the player plays with. -/
  deck : List CardId
  tokens : List TokenId := []
  loadout : Loadout := {}
  deriving DecidableEq, Repr

namespace Player

/-- A new player, who owns and plays the starter deck. -/
def ofStarter (id : PlayerId) (username : String) (starter : List CardId) (rules : Rules) :
    Player where
  id := id
  username := username
  bloodPool := rules.basePlayerHealth
  maxBloodPool := rules.basePlayerHealth
  cards := starter
  deck := starter
  loadout := .full

/-- A guest, named for the time of arrival in seconds. -/
def guest (id : PlayerId) (time : Nat) (starter : List CardId) (rules : Rules) : Player :=
  { ofStarter id s!"Guest{time}" starter rules with isGuest := true }

def ownsCard (player : Player) (card : CardId) : Bool :=
  player.cards.contains card

def ownsToken (player : Player) (token : TokenId) : Bool :=
  player.tokens.contains token

def grantToken (player : Player) (token : TokenId) : Player :=
  if player.ownsToken token then player
  else { player with tokens := player.tokens ++ [token] }

/-- Replaces the deck, which must have `size` distinct cards that the player owns. -/
def assignDeck (player : Player) (cards : List CardId) (size : Nat) : Except DeckError Player :=
  match Deck.validate cards size player.ownsCard with
  | .ok () => .ok { player with deck := cards }
  | .error e => .error e

def equipToken (player : Player) (slot : SlotId) (token : TokenId) :
    Except LoadoutError Player :=
  if player.ownsToken token then
    match player.loadout.equip slot token with
    | .ok loadout => .ok { player with loadout }
    | .error e => .error e
  else .error (.notOwned token)

def inscribedToken? (player : Player) : Option TokenId :=
  player.loadout.inscribed?.bind Slot.token?

/-- Checks the pool against `ceiling`, the maximum of the round while there is one. -/
def checkWithin (player : Player) (ceiling : Int) : Except Violation Unit :=
  if player.bloodPool < 0 then .error .poolBelowZero
  else if player.maxBloodPool < 0 then .error .maximumBelowZero
  else if ceiling < player.bloodPool then .error (.poolAboveCeiling player.bloodPool ceiling)
  else .ok ()

def check (player : Player) : Except Violation Unit :=
  player.checkWithin player.maxBloodPool

end Player

end BloodStakes
