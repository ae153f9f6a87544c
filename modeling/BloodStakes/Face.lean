import BloodStakes.Card
import BloodStakes.Effect.Kind

/-!
The printed cards. Every flavor has all fifty-two cards; numbers run from 1 by flavor,
then suit, then rank, and the flavor and rank decide the effect the card carries.
-/
namespace BloodStakes

inductive Flavor where
  | exhumed
  | charred
  | fleshwoven
  | blessed
  | bloodstained
  | standard
  deriving DecidableEq, Repr

/-- The whole number nearest to `n / d`. -/
def nearestQuotient (n d : Nat) : Nat :=
  (2 * n + d) / (2 * d)

/-- The number written as `n` ten-thousandths. -/
def tenThousandths (n : Nat) : Float :=
  Float.ofNat n / 10000

namespace Flavor

def all : List Flavor := [exhumed, charred, fleshwoven, blessed, bloodstained, standard]

def name : Flavor → String
  | exhumed => "Exhumed"
  | charred => "Charred"
  | fleshwoven => "Fleshwoven"
  | blessed => "Blessed"
  | bloodstained => "Bloodstained"
  | standard => "Standard"

def description : Flavor → String
  | exhumed => "Cards ripped from a corpse's stiff grip."
  | charred => "The embers on these cards can still cauterize wounds."
  | fleshwoven => "These cards appear to have a leathery texture and an odd familiarity."
  | blessed => "The cards are blinding, and sizzle to the touch."
  | bloodstained =>
    "The cards are matted together by blood, filling the room with their foul odor."
  | standard =>
    "A standard deck of cards, they are almost boring with how ordinary they appear."

def kind : Flavor → EffectKind
  | exhumed => .increasePotOnWin
  | charred => .lossBloodReturn
  | fleshwoven => .pushBloodReturn
  | blessed => .healPlayer
  | bloodstained => .damageDaimon
  | standard => .none

/-- Exhumed, charred and fleshwoven cards carry whole percentages of the pot; blessed and
bloodstained ones a fraction of a maximum, to four places. An ace carries the most. -/
def bundle (flavor : Flavor) (rank : Rank) : Bundle :=
  let full := Rank.ace.strength
  let r := rank.strength
  match flavor with
  | exhumed =>
    .ofList [(.bloodWager, ⟨Float.ofNat (nearestQuotient (25 * r) full), .onWin⟩)]
  | charred =>
    .ofList [(.playerHealth, ⟨Float.ofNat (nearestQuotient (full + 20 * r) full), .onLoss⟩)]
  | fleshwoven =>
    .ofList [(.playerHealth, ⟨Float.ofNat (nearestQuotient (full + 25 * r) full), .onPush⟩)]
  | blessed =>
    .ofList [(.playerHealth, ⟨tenThousandths (nearestQuotient (400 * r) full), .handStart⟩)]
  | bloodstained =>
    .ofList [(.daimonHealth, ⟨-tenThousandths (nearestQuotient (1000 * r) full), .handStart⟩)]
  | standard => .empty

end Flavor

structure Face where
  flavor : Flavor
  suit : Suit
  rank : Rank
  deriving DecidableEq, Repr

namespace Face

/-- All faces, in the order in which they are numbered. -/
def all : List Face :=
  Flavor.all.flatMap fun flavor => Suit.all.flatMap fun suit =>
    Rank.all.map fun rank => ⟨flavor, suit, rank⟩

/-- The face of the card with number `id`, if there is such a card. -/
def ofId? (id : CardId) : Option Face :=
  if id = 0 then none
  else do
    let flavor ← Flavor.all[(id - 1) / 52]?
    let suit ← Suit.all[(id - 1) % 52 / 13]?
    let rank ← Rank.all[(id - 1) % 13]?
    return ⟨flavor, suit, rank⟩

def name (face : Face) : String :=
  s!"{face.flavor.name} {face.rank.name} of {face.suit.name}"

def effect (face : Face) : Effect :=
  { kindId := face.flavor.kind.id, bundle := face.flavor.bundle face.rank }

end Face

structure Card where
  id : CardId
  face : Face
  name : String
  description : String
  effect : Effect

namespace Card

def ofFace (id : CardId) (face : Face) : Card where
  id := id
  face := face
  name := face.name
  description := face.flavor.description
  effect := face.effect

def ofId? (id : CardId) : Option Card :=
  (Face.ofId? id).map (ofFace id)

end Card

structure UnknownCard where
  id : CardId
  deriving DecidableEq, Repr

def UnknownCard.message (e : UnknownCard) : String :=
  s!"unknown card {e.id}"

/-- The ranks of the cards, or the first number that is on no card. -/
def ranksOf : List CardId → Except UnknownCard (List Rank)
  | [] => .ok []
  | id :: ids =>
    match Face.ofId? id with
    | none => .error ⟨id⟩
    | some face =>
      match ranksOf ids with
      | .ok ranks => .ok (face.rank :: ranks)
      | .error e => .error e

def cardCount : Nat := Face.all.length

/-- The fifty-two standard cards, which every new player owns and plays. -/
def starterDeck : List CardId :=
  (List.range' 1 cardCount).filter fun id => (Face.ofId? id).any (·.flavor = .standard)

end BloodStakes
