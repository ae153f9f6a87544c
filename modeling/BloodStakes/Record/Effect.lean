import BloodStakes.Face
import BloodStakes.Json.Decode

/-! Effects and cards as they are written in records. -/
namespace BloodStakes

def Phase.ofJson? : Json → Option Phase :=
  Json.word? Phase.ofId?

def Action.ofJson? : Json → Option Action :=
  Json.word? Action.ofId?

/-- A phase inside a record whose members are read in full before they are told apart. -/
def Phase.ofGathered? : Json → Option Phase :=
  Json.laxWord? Phase.ofId?

def Entry.ofJson? (phase? : Json → Option Phase) (json : Json) : Option Entry := do
  let members ← json.record? ["value", "apply_on_phase"]
  return {
    value := ← members.get "value" Json.float?
    phase := ← members.get "apply_on_phase" phase? }

/-- A bundle is an object with an entry for each action; the last entry of an action counts. -/
def Bundle.ofJson? (phase? : Json → Option Phase) : Json → Option Bundle
  | .object members => do
    let entries ← members.mapM fun (name?, json) => do
      return (← name?.bind Action.ofId?, ← Entry.ofJson? phase? json)
    return Bundle.ofList entries
  | _ => none

/-- The names of the members that make up an effect. -/
def Effect.memberNames : List String := ["effect_type", "effect_values"]

/-- The effect among the members of a record. -/
def Effect.ofMembers? (phase? : Json → Option Phase) (members : Json.Members) :
    Option Effect := do
  return {
    kindId := ← members.get "effect_type" Json.text?
    bundle := ← members.getD "effect_values" .empty (Bundle.ofJson? phase?) }

def Effect.ofJson? (json : Json) : Option Effect :=
  json.record? Effect.memberNames >>= Effect.ofMembers? Phase.ofJson?

def Suit.ofJson? : Json → Option Suit :=
  Json.word? fun word => Suit.all.find? (·.name = word)

/-- The rank as it is written in records. -/
def Rank.word : Rank → String
  | two => "Two"
  | three => "Three"
  | four => "Four"
  | five => "Five"
  | six => "Six"
  | seven => "Seven"
  | eight => "Eight"
  | nine => "Nine"
  | ten => "Ten"
  | r => r.name

def Rank.ofJson? : Json → Option Rank :=
  Json.word? fun word => Rank.all.find? (·.word = word)

def Flavor.ofJson? : Json → Option Flavor :=
  Json.word? fun word => Flavor.all.find? (·.name = word)

def Card.ofJson? (json : Json) : Option Card := do
  let members ← json.record?
    ["id", "suit", "rank", "flavor", "name", "description", "effect_type", "effect_values"]
  return {
    id := ← members.get "id" (Json.count? 32)
    face := {
      flavor := ← members.get "flavor" Flavor.ofJson?
      suit := ← members.get "suit" Suit.ofJson?
      rank := ← members.get "rank" Rank.ofJson? }
    name := ← members.get "name" Json.text?
    description := ← members.get "description" Json.text?
    effect := {
      kindId := ← members.get "effect_type" Json.text?
      bundle := ← members.get "effect_values" (Bundle.ofJson? Phase.ofJson?) } }

end BloodStakes
