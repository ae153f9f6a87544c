import BloodStakes.Effect.Bundle

/-! The known kinds of effect, with the actions each may take, and an effect as content
names it: the id of a kind, known or not, and a bundle. -/
namespace BloodStakes

inductive EffectKind where
  | healPlayer
  | damagePlayer
  | increaseMaxHealth
  | decreaseMaxHealth
  | healDaimon
  | damageDaimon
  | increaseDaimonMaxHealth
  | decreaseDaimonMaxHealth
  | increasePotOnWin
  | pushBloodReturn
  | lossBloodReturn
  | showCardCount
  | showNextCardCount
  | showNextCard
  | damageDaimonLimitHealth
  | damageDaimonAndPlayer
  | none
  deriving DecidableEq, Repr

namespace EffectKind

def all : List EffectKind :=
  [healPlayer, damagePlayer, increaseMaxHealth, decreaseMaxHealth, healDaimon, damageDaimon,
    increaseDaimonMaxHealth, decreaseDaimonMaxHealth, increasePotOnWin, pushBloodReturn,
    lossBloodReturn, showCardCount, showNextCardCount, showNextCard, damageDaimonLimitHealth,
    damageDaimonAndPlayer, none]

def id : EffectKind → String
  | healPlayer => "heal_player"
  | damagePlayer => "damage_player"
  | increaseMaxHealth => "increase_max_health"
  | decreaseMaxHealth => "decrease_max_health"
  | healDaimon => "heal_daimon"
  | damageDaimon => "damage_daimon"
  | increaseDaimonMaxHealth => "increase_daimon_max_health"
  | decreaseDaimonMaxHealth => "decrease_daimon_max_health"
  | increasePotOnWin => "increase_pot_on_win"
  | pushBloodReturn => "push_blood_return"
  | lossBloodReturn => "loss_blood_return"
  | showCardCount => "show_card_count"
  | showNextCardCount => "show_next_card_count"
  | showNextCard => "show_next_card"
  | damageDaimonLimitHealth => "damage_daimon_limit_health"
  | damageDaimonAndPlayer => "damage_daimon_and_player"
  | none => "none"

/-- The actions a kind takes, in the order it takes them. -/
def actions : EffectKind → List Action
  | healPlayer | damagePlayer | pushBloodReturn | lossBloodReturn => [.playerHealth]
  | increaseMaxHealth | decreaseMaxHealth => [.playerMaxHealth]
  | healDaimon | damageDaimon => [.daimonHealth]
  | increaseDaimonMaxHealth | decreaseDaimonMaxHealth => [.daimonMaxHealth]
  | increasePotOnWin => [.bloodWager]
  | showCardCount => [.showCardCount]
  | showNextCardCount => [.showNextCardCount]
  | showNextCard => [.showNextCard]
  | damageDaimonLimitHealth => [.damageDaimonWithDifference, .playerMaxHealth]
  | damageDaimonAndPlayer => [.daimonHealth, .playerHealth]
  | none => [.nothing]

def description : EffectKind → String
  | healPlayer => "The gambler's blood pool is replenished."
  | damagePlayer => "The gambler takes extra damage."
  | increaseMaxHealth => "Increases the gambler's maximum blood pool capacity."
  | decreaseMaxHealth => "Decreases the gambler's maximum blood pool capacity."
  | healDaimon => "The house's blood pool is replenished."
  | damageDaimon => "The house takes extra damage."
  | increaseDaimonMaxHealth => "Increases the house's maximum blood pool capacity."
  | decreaseDaimonMaxHealth => "Decreases the house's maximum blood pool capacity."
  | increasePotOnWin => "Increases blood pot payout on a win."
  | pushBloodReturn => "Increases blood pot returned on a push."
  | lossBloodReturn => "Partially refunds blood lost on a loss."
  | showCardCount => "Shows the current card count."
  | showNextCardCount =>
    "Shows whether the next card will increase or decrease the card count."
  | showNextCard => "Shows the next card."
  | damageDaimonLimitHealth =>
    "The house takes extra damage by limiting the gambler's blood pool."
  | damageDaimonAndPlayer => "The house and the gambler take extra damage."
  | none => "No effect."

def ofId? (id : String) : Option EffectKind :=
  all.find? (·.id = id)

end EffectKind

structure Effect where
  kindId : String
  bundle : Bundle := .empty

namespace Effect

def none : Effect := { kindId := EffectKind.none.id }

/-- The actions the effect triggers; an unknown kind triggers nothing. -/
def actionsOf (kindId : String) : List Action :=
  ((EffectKind.ofId? kindId).map EffectKind.actions).getD []

end Effect

end BloodStakes
