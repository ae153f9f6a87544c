import BloodStakes.Event
import BloodStakes.Record.Effect
import BloodStakes.Record.Table

/-! Events as they are written in records: an object whose one name says what happened. -/
namespace BloodStakes

def Move.ofJson? : Json → Option Move :=
  Json.word? fun word => Move.all.find? (·.id = word)

/-- What a source with a number is, by the word for its kind. -/
def EffectSource.ofKind? : String → Option (Nat → EffectSource)
  | "token" => some .token
  | "daimon" => some .daimon
  | "card" => some .card
  | _ => none

/-- A source is a kind with a number. In an array its kind is a bare word. -/
def EffectSource.ofJson? (json : Json) : Option EffectSource := do
  let kind? : Json → Option (Nat → EffectSource) :=
    match json with
    | .array _ => fun kind => kind.text? >>= EffectSource.ofKind?
    | _ => Json.word? EffectSource.ofKind?
  let members ← json.record? ["kind", "id"]
  return (← members.get "kind" kind?) (← members.get "id" (Json.count? 32))

/-- Two members of a record, both needed. -/
def Json.pair? {α β γ : Type} (make : α → β → γ) (first : String × (Json → Option α))
    (second : String × (Json → Option β)) (json : Json) : Option γ := do
  let members ← json.record? [first.1, second.1]
  return make (← members.get first.1 first.2) (← members.get second.1 second.2)

/-- The one member of a record. -/
def Json.single? {α β : Type} (make : α → β) (name : String) (value? : Json → Option α)
    (json : Json) : Option β := do
  let members ← json.record? [name]
  return make (← members.get name value?)

def EffectResult.ofJson? : Json → Option EffectResult
  | .string (some "skipped") => some .skipped
  | .object [(some name, json)] =>
    match name with
    | "player_health" =>
      json.pair? EffectResult.playerHealth ("amount", Json.signed? 64)
        ("blood_pool", Json.signed? 64)
    | "daimon_health" =>
      json.pair? EffectResult.daimonHealth ("amount", Json.signed? 64)
        ("blood_pool", Json.signed? 64)
    | "blood_wager" =>
      json.pair? EffectResult.bloodWager ("amount", Json.signed? 64)
        ("blood_wager", Json.signed? 64)
    | "player_max_health" =>
      json.pair? EffectResult.playerMaxHealth ("multiplier", Json.float?)
        ("max_blood_pool", Json.signed? 64)
    | "daimon_max_health" =>
      json.pair? EffectResult.daimonMaxHealth ("multiplier", Json.float?)
        ("max_blood_pool", Json.signed? 64)
    | "card_count" => json.single? EffectResult.cardCount "count" (Json.signed? 32)
    | "next_card_count" => json.single? EffectResult.nextCardCount "count" (Json.signed? 32)
    | "next_card" => json.single? EffectResult.nextCard "card" (Json.count? 32)
    | "skipped" =>
      match json with
      | .null => some .skipped
      | _ => none
    | _ => none
  | _ => none

def EffectLog.ofJson? (json : Json) : Option EffectLog := do
  let members ← json.record? ["source", "phase", "action", "outcome"]
  return {
    source := ← members.get "source" EffectSource.ofJson?
    phase := ← members.get "phase" Phase.ofJson?
    action := ← members.get "action" Action.ofJson?
    result := ← members.get "outcome" EffectResult.ofJson? }

/-- The event with this name and these members. -/
def Event.ofNamed? (name : String) (json : Json) : Option Event := do
  match name with
  | "GameStarted" => json.single? Event.gameStarted "blood_pool" (Json.signed? 64)
  | "RoundStarted" =>
    let members ← json.record? ["number", "daimon", "daimon_blood_pool", "tutorial"]
    return .roundStarted (← members.get "number" (Json.count? 32))
      (← members.get "daimon" (Json.count? 32))
      (← members.get "daimon_blood_pool" (Json.signed? 64))
      (← members.get "tutorial" Json.bool?)
  | "DeckShuffled" => json.single? Event.deckShuffled "cards" (Json.count? 64)
  | "HandDealt" =>
    let members ← json.record? ["blood_wager", "player_hand", "daimon_hand"]
    return .handDealt (← members.get "blood_wager" (Json.signed? 64))
      (← members.get "player_hand" (Json.list? (Json.count? 32)))
      (← members.get "daimon_hand" (Json.list? (Json.count? 32)))
  | "CardDrawn" =>
    json.pair? Event.cardDrawn ("card", Json.count? 32) ("total", Json.count? 32)
  | "EffectApplied" => return .effectApplied (← EffectLog.ofJson? json)
  | "HandResolved" =>
    let members ← json.record? ["status", "blood_wager", "player_total", "daimon_total"]
    return .handResolved (← members.get "status" HandStatus.ofJson?)
      (← members.get "blood_wager" (Json.signed? 64))
      (← members.get "player_total" (Json.count? 32))
      (← members.get "daimon_total" (Json.count? 32))
  | "RoundEnded" =>
    json.pair? Event.roundEnded ("number", Json.count? 32) ("status", RoundStatus.ofJson?)
  | "GameLost" => json.single? Event.gameLost "rounds_played" (Json.count? 32)
  | "TokenClaimed" => json.single? Event.tokenClaimed "token" (Json.count? 32)
  | _ => none

def Event.ofJson? : Json → Option Event
  | .object [(some name, json)] => Event.ofNamed? name json
  | _ => none

end BloodStakes
