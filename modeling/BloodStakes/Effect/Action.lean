import BloodStakes.Keyword

/-! When an effect entry fires, and what it acts on. -/
namespace BloodStakes

/-- The moment an effect entry waits for. -/
inductive Phase where
  | onEquip
  | roundStart
  | handStart
  | onWin
  | onLoss
  | onPush
  deriving DecidableEq, Repr

namespace Phase

def all : List Phase := [onEquip, roundStart, handStart, onWin, onLoss, onPush]

def id : Phase → String
  | onEquip => "on_equip"
  | roundStart => "round_start"
  | handStart => "hand_start"
  | onWin => "on_win"
  | onLoss => "on_loss"
  | onPush => "on_push"

def ofId? (id : String) : Option Phase :=
  all.find? (·.id = id)

def ofKeyword? (word : String) : Option Phase :=
  ofId? (Keyword.fold word)

end Phase

/-- What one entry of an effect does to the table. -/
inductive Action where
  | playerHealth
  | daimonHealth
  | bloodWager
  | playerMaxHealth
  | daimonMaxHealth
  | damageDaimonWithDifference
  | showCardCount
  | showNextCardCount
  | showNextCard
  | nothing
  deriving DecidableEq, Repr

namespace Action

/-- Every action; entries of a bundle are listed in this order. -/
def all : List Action :=
  [playerHealth, daimonHealth, bloodWager, playerMaxHealth, daimonMaxHealth,
    damageDaimonWithDifference, showCardCount, showNextCardCount, showNextCard, nothing]

def id : Action → String
  | playerHealth => "player_health"
  | daimonHealth => "daimon_health"
  | bloodWager => "blood_wager"
  | playerMaxHealth => "player_max_health"
  | daimonMaxHealth => "daimon_max_health"
  | damageDaimonWithDifference => "damage_daimon_with_difference"
  | showCardCount => "show_card_count"
  | showNextCardCount => "show_next_card_count"
  | showNextCard => "show_next_card"
  | nothing => "none"

def ofId? (id : String) : Option Action :=
  all.find? (·.id = id)

/-- The pot may also be called by its older name. -/
def ofKeyword? (word : String) : Option Action :=
  let word := Keyword.fold word
  if word = "blood_pot" then some bloodWager else ofId? word

end Action

end BloodStakes
