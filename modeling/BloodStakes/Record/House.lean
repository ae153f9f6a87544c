import BloodStakes.Catalog
import BloodStakes.Record.Effect
import BloodStakes.Rules

/-! Rules, daimons and tokens as they are written in records. -/
namespace BloodStakes

/-- Rules that are not written keep their usual value. -/
def Rules.ofJson? (json : Json) : Option Rules := do
  let members ← json.record?
    ["base_player_health", "base_daimon_health", "daimon_scaling_factor", "min_wager",
      "flat_wager_hands", "wager_step", "wager_scaling_cap", "deck_size", "daimon_stand_total",
      "rank_bias_threshold", "rank_bias_fade_round"]
  let usual : Rules := {}
  return {
    basePlayerHealth := ←
      members.getD "base_player_health" usual.basePlayerHealth (Json.signed? 64)
    baseDaimonHealth := ←
      members.getD "base_daimon_health" usual.baseDaimonHealth (Json.signed? 64)
    daimonScalingFactor := ←
      members.getD "daimon_scaling_factor" usual.daimonScalingFactor Json.float?
    minWager := ← members.getD "min_wager" usual.minWager (Json.signed? 64)
    flatWagerHands := ← members.getD "flat_wager_hands" usual.flatWagerHands (Json.count? 32)
    wagerStep := ← members.getD "wager_step" usual.wagerStep (Json.signed? 64)
    wagerScalingCap := ← members.getD "wager_scaling_cap" usual.wagerScalingCap (Json.count? 32)
    deckSize := ← members.getD "deck_size" usual.deckSize (Json.count? 64)
    daimonStandTotal := ←
      members.getD "daimon_stand_total" usual.daimonStandTotal (Json.count? 32)
    rankBiasThreshold := ←
      members.getD "rank_bias_threshold" usual.rankBiasThreshold (Json.count? 8)
    rankBiasFadeRound := ←
      members.getD "rank_bias_fade_round" usual.rankBiasFadeRound (Json.count? 32) }

/-- The members of a daimon's record other than those of its effect. -/
def Daimon.memberNames : List String :=
  ["id", "name", "rune", "description", "story_sequence", "double_health", "intro",
    "player_win", "player_lose", "dialogue"]

/-- A daimon is an object in which the members of its effect stand beside its own. All members
that are not its own are read in full; `depth` is how deep they may be nested. -/
def Daimon.ofJson? (depth : Nat) : Json → Option Daimon
  | .object written => do
    let isOwn := fun (member : Option String × Json) =>
      member.1.any Daimon.memberNames.contains
    let members ← Json.namedMembers? Daimon.memberNames written
    if !(written.all fun member => isOwn member || member.2.isPlain depth) then none
    else
      return {
        id := ← members.get "id" (Json.count? 32)
        name := ← members.get "name" Json.text?
        rune := ← members.get "rune" Json.text?
        description := ← members.getD "description" "" Json.text?
        storySequence := ← members.get "story_sequence" (Json.count? 32)
        effect := ←
          Json.namedMembers? Effect.memberNames written >>= Effect.ofMembers? Phase.ofGathered?
        doubleHealth := ← members.getD "double_health" false Json.bool?
        intro := ← members.get "intro" Json.text?
        playerWin := ← members.get "player_win" Json.text?
        playerLose := ← members.get "player_lose" Json.text?
        dialogue := ← members.getD "dialogue" [] (Json.list? Json.text?) }
  | _ => none

def Token.ofJson? (json : Json) : Option Token := do
  let members ← json.record?
    ["id", "name", "rune", "description", "story_sequence", "inscribed", "oathbound", "offering"]
  return {
    id := ← members.get "id" (Json.count? 32)
    name := ← members.get "name" Json.text?
    rune := ← members.get "rune" Json.text?
    description := ← members.get "description" Json.text?
    storySequence? := ← members.getD "story_sequence" none (Json.nullable? (Json.count? 32))
    inscribed := ← members.get "inscribed" Effect.ofJson?
    oathbound := ← members.get "oathbound" Effect.ofJson?
    offering := ← members.get "offering" Effect.ofJson? }

/-- How deep arrays and objects may be nested in what is read in full. -/
def Json.depthLimit : Nat := 127

/-- A daimon that makes up the whole document. -/
def Daimon.ofDocument? : Json → Option Daimon :=
  Daimon.ofJson? (Json.depthLimit - 1)

/-- The daimons of a list that makes up the whole document. -/
def Daimon.listOfDocument? : Json → Option (List Daimon) :=
  Json.list? (Daimon.ofJson? (Json.depthLimit - 2))

def Token.listOfDocument? : Json → Option (List Token) :=
  Json.list? Token.ofJson?

end BloodStakes
