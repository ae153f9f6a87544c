import BloodStakes.Session.Moves

/-! Tokens and the deck: placing a token, changing the deck, claiming the reward of a round. -/
namespace BloodStakes

/-- The session with a story token granted and the story moved on. -/
def Session.grantStoryToken (s : Session) (token : TokenId) : Session :=
  let player := s.table.player.grantToken token
  (s.putPlayer { player with storyProgression := player.storyProgression + 1 }).emit
    (.tokenClaimed token)

namespace Play

/-- Puts a token into a slot; during a round it fires at once. -/
def equipToken (house : House) (slot : SlotId) (token : TokenId) : Play (List EffectLog) := do
  refuseIf (house.catalog.token? token).isNone (.unknownToken token)
  let player := (← get).table.player
  match player.loadout.slot? slot with
  | none => throw (.unknownSlot slot)
  | some place =>
    let player ← ofExcept .loadout (player.equipToken slot token)
    modify fun s => s.putPlayer player
    if (← get).roundInProgress then
      let logs ← ofStep fun s => s.fireSlot house.catalog token place.slotType .onEquip
      let s ← get
      if s.roundTerminal ∧ s.handInProgress then
        let _ ← closeByRound
      return logs
    else return []

/-- Replaces the player's deck, which is shuffled in the next round. -/
def assignDeck (rules : Rules) (cards : List CardId) : Play Unit := do
  let _ ← ranks cards
  let player ← ofExcept .deck ((← get).table.player.assignDeck cards rules.deckSize)
  modify fun s => s.putPlayer player

/-- Claims the reward of a won round: the next token of the story, if there is one. -/
def claimStoryToken (catalog : Catalog) : Play (Option TokenId) := do
  let current ← round
  refuseIf (current.status ≠ .won) .roundNotWon
  refuseIf current.rewardClaimed .rewardClaimed
  modify fun s => s.putRound { current with rewardClaimed := true }
  match catalog.storyToken? (← get).table.player.storyProgression with
  | none => return none
  | some token =>
    modify fun s => s.grantStoryToken token.id
    return some token.id

end Play

end BloodStakes
