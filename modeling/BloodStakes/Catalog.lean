import BloodStakes.Face
import BloodStakes.Loadout
import BloodStakes.Random.Rng

/-! The daimons and tokens of the game, beside the printed cards. -/
namespace BloodStakes

structure Daimon where
  id : DaimonId
  name : String
  rune : String
  description : String := ""
  storySequence : Nat
  effect : Effect
  /-- Whether the daimon starts each round with twice the scaled health. -/
  doubleHealth : Bool := false
  intro : String
  playerWin : String
  playerLose : String
  dialogue : List String := []

/-- One of the daimon's lines by chance, or an ellipsis if there are none. -/
def Daimon.speak (daimon : Daimon) (rng : Rng) : String × Rng :=
  let (i?, rng) := rng.pick daimon.dialogue.length
  ((i?.map fun i => daimon.dialogue.get i).getD "...", rng)

structure Token where
  id : TokenId
  name : String
  rune : String
  description : String
  /-- Where in the story the token is granted, if it is a story token. -/
  storySequence? : Option Nat := none
  inscribed : Effect
  oathbound : Effect
  offering : Effect

namespace Token

def isStoryToken (token : Token) : Bool := token.storySequence?.isSome

def effectFor (token : Token) : SlotType → Effect
  | .inscribed => token.inscribed
  | .oathbound => token.oathbound
  | .offering => token.offering

end Token

structure Catalog where
  daimons : List Daimon := []
  tokens : List Token := []

namespace Catalog

def daimon? (catalog : Catalog) (id : DaimonId) : Option Daimon :=
  catalog.daimons.find? (·.id = id)

def token? (catalog : Catalog) (id : TokenId) : Option Token :=
  catalog.tokens.find? (·.id = id)

def storyDaimon? (catalog : Catalog) (progression : Nat) : Option Daimon :=
  catalog.daimons.find? (·.storySequence = progression)

/-- The daimons that stand at this point of the story or before it. -/
def unlocked (catalog : Catalog) (progression : Nat) : List Daimon :=
  catalog.daimons.filter (·.storySequence ≤ progression)

def pickDaimon (catalog : Catalog) (progression : Nat) (rng : Rng) : Option Daimon × Rng :=
  let (i?, rng) := rng.pick (catalog.unlocked progression).length
  (i?.map fun i => (catalog.unlocked progression).get i, rng)

def storyToken? (catalog : Catalog) (progression : Nat) : Option Token :=
  catalog.tokens.find? (·.storySequence? = some progression)

end Catalog

end BloodStakes
