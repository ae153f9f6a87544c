import BloodStakes.Json.Decode
import BloodStakes.Table.Basic

/-! Tables and their parts as they are written in records. -/
namespace BloodStakes

def SlotType.ofJson? : Json → Option SlotType :=
  Json.word? fun word => SlotType.all.find? (·.name = word)

def Slot.ofJson? (json : Json) : Option Slot := do
  let members ← json.record? ["id", "slot_type", "token"]
  return {
    id := ← members.get "id" (Json.count? 32)
    slotType := ← members.get "slot_type" SlotType.ofJson?
    token? := ← members.getD "token" none (Json.nullable? (Json.count? 32)) }

def Loadout.ofJson? (json : Json) : Option Loadout := do
  let members ← json.record? ["slots"]
  return { slots := ← members.get "slots" (Json.list? Slot.ofJson?) }

def Player.ofJson? (json : Json) : Option Player := do
  let members ← json.record?
    ["id", "username", "is_guest", "blood_pool", "max_blood_pool", "story_progression",
      "games_played", "tutorial_finished", "max_round_reached", "max_daimon_health_reached",
      "cards", "deck", "tokens", "loadout"]
  return {
    id := ← members.get "id" (Json.count? 64)
    username := ← members.get "username" Json.text?
    isGuest := ← members.getD "is_guest" false Json.bool?
    bloodPool := ← members.get "blood_pool" (Json.signed? 64)
    maxBloodPool := ← members.get "max_blood_pool" (Json.signed? 64)
    storyProgression := ← members.getD "story_progression" 0 (Json.count? 32)
    gamesPlayed := ← members.getD "games_played" 0 (Json.count? 32)
    tutorialFinished := ← members.getD "tutorial_finished" false Json.bool?
    maxRoundReached := ← members.getD "max_round_reached" 0 (Json.count? 32)
    maxDaimonHealthReached := ← members.getD "max_daimon_health_reached" 0 (Json.signed? 64)
    cards := ← members.get "cards" (Json.list? (Json.count? 32))
    deck := ← members.get "deck" (Json.list? (Json.count? 32))
    tokens := ← members.getD "tokens" [] (Json.list? (Json.count? 32))
    loadout := ← members.getD "loadout" {} Loadout.ofJson? }

def GameStatus.ofJson? : Json → Option GameStatus :=
  Json.word? fun word => GameStatus.all.find? (·.id = word)

def Game.ofJson? (json : Json) : Option Game := do
  let members ← json.record?
    ["daimon_progress", "rounds_played", "status", "total_hands_won", "total_hands_lost",
      "win_streak", "longest_win_streak"]
  return {
    daimonProgress := ← members.get "daimon_progress" (Json.signed? 32)
    roundsPlayed := ← members.get "rounds_played" (Json.count? 32)
    status := ← members.get "status" GameStatus.ofJson?
    handsWon := ← members.get "total_hands_won" (Json.count? 32)
    handsLost := ← members.get "total_hands_lost" (Json.count? 32)
    winStreak := ← members.get "win_streak" (Json.count? 32)
    longestWinStreak := ← members.get "longest_win_streak" (Json.count? 32) }

def RoundStatus.ofJson? : Json → Option RoundStatus :=
  Json.word? fun word => RoundStatus.all.find? (·.id = word)

def Round.ofJson? (json : Json) : Option Round := do
  let members ← json.record?
    ["number", "daimon_id", "daimon_blood_pool", "daimon_max_blood_pool",
      "player_max_blood_pool", "hands_played", "shuffled_deck", "discard_pile", "status",
      "reward_claimed"]
  return {
    number := ← members.get "number" (Json.count? 32)
    daimon := ← members.get "daimon_id" (Json.count? 32)
    daimonPool := ← members.get "daimon_blood_pool" (Json.signed? 64)
    daimonMaximum := ← members.get "daimon_max_blood_pool" (Json.signed? 64)
    ceiling := ← members.get "player_max_blood_pool" (Json.signed? 64)
    handsPlayed := ← members.get "hands_played" (Json.count? 32)
    shoe := ← members.get "shuffled_deck" (Json.list? (Json.count? 32))
    discard := ← members.get "discard_pile" (Json.list? (Json.count? 32))
    status := ← members.get "status" RoundStatus.ofJson?
    rewardClaimed := ← members.getD "reward_claimed" false Json.bool? }

def HandStatus.ofJson? : Json → Option HandStatus :=
  Json.word? fun word => HandStatus.all.find? (·.id = word)

def Hand.ofJson? (json : Json) : Option Hand := do
  let members ← json.record? ["blood_wager", "player_hand", "daimon_hand", "status"]
  return {
    pot := ← members.get "blood_wager" (Json.signed? 64)
    playerCards := ← members.get "player_hand" (Json.list? (Json.count? 32))
    daimonCards := ← members.get "daimon_hand" (Json.list? (Json.count? 32))
    status := ← members.get "status" HandStatus.ofJson? }

def Table.ofJson? (json : Json) : Option Table := do
  let members ← json.record? ["player", "game", "round", "hand"]
  return {
    player := ← members.get "player" Player.ofJson?
    game? := ← members.getD "game" none (Json.nullable? Game.ofJson?)
    round? := ← members.getD "round" none (Json.nullable? Round.ofJson?)
    hand? := ← members.getD "hand" none (Json.nullable? Hand.ofJson?) }

end BloodStakes
