import BloodStakes.Catalog
import BloodStakes.Text.Quoted

/-!
Which catalogs can be played. Ids, names, runes and places in the story must be distinct,
the story must open with a daimon, and every effect must be of a known kind and use only
the actions of its kind. The first fault in catalog order is reported.
-/
namespace BloodStakes

inductive EffectOwner where
  | daimon (id : DaimonId)
  | token (id : TokenId) (slotType : SlotType)
  deriving DecidableEq, Repr

def EffectOwner.label : EffectOwner → String
  | daimon id => s!"daimon {id}"
  | token id .inscribed => s!"token {id} inscribed"
  | token id .oathbound => s!"token {id} oathbound"
  | token id .offering => s!"token {id} offering"

inductive CatalogFault where
  | daimonId (id : DaimonId)
  | daimonName (name : String)
  | daimonRune (rune : String)
  | daimonSequence (sequence : Nat)
  | noOpeningDaimon
  | tokenId (id : TokenId)
  | tokenName (name : String)
  | tokenRune (rune : String)
  | tokenSequence (sequence : Nat)
  | unknownKind (owner : EffectOwner) (kindId : String)
  | strayAction (owner : EffectOwner) (action : Action) (kind : EffectKind)
  deriving DecidableEq, Repr

def CatalogFault.message : CatalogFault → String
  | daimonId id => s!"duplicate daimon id {id}"
  | daimonName name => s!"duplicate daimon name {Text.quoted name}"
  | daimonRune rune => s!"duplicate daimon rune {Text.quoted rune}"
  | daimonSequence sequence => s!"duplicate daimon story_sequence {sequence}"
  | noOpeningDaimon => "no daimon at story_sequence 0"
  | tokenId id => s!"duplicate token id {id}"
  | tokenName name => s!"duplicate token name {Text.quoted name}"
  | tokenRune rune => s!"duplicate token rune {Text.quoted rune}"
  | tokenSequence sequence => s!"duplicate story token story_sequence {sequence}"
  | unknownKind owner kindId => s!"{owner.label}: unknown effect_type {Text.quoted kindId}"
  | strayAction owner action kind =>
    s!"{owner.label}: action {action.id} is not part of effect_type {kind.id}"

namespace Catalog

/-- An effect must be of a known kind and use only its actions. -/
def effectFault? (owner : EffectOwner) (effect : Effect) : Option CatalogFault :=
  match EffectKind.ofId? effect.kindId with
  | none => some (.unknownKind owner effect.kindId)
  | some kind =>
    (effect.bundle.toList.find? fun (action, _) => !kind.actions.contains action).map
      fun (action, _) => .strayAction owner action kind

/-- The fault of a daimon that comes after the daimons `before`. -/
def daimonFault? (before : List Daimon) (daimon : Daimon) : Option CatalogFault :=
  if before.any (·.id = daimon.id) then some (.daimonId daimon.id)
  else if before.any (·.name = daimon.name) then some (.daimonName daimon.name)
  else if before.any (·.rune = daimon.rune) then some (.daimonRune daimon.rune)
  else if before.any (·.storySequence = daimon.storySequence) then
    some (.daimonSequence daimon.storySequence)
  else effectFault? (.daimon daimon.id) daimon.effect

/-- The first fault in the effects that a token has in the three types of slot. -/
def tokenEffectFault? (token : Token) : Option CatalogFault :=
  SlotType.all.findSome? fun slotType =>
    effectFault? (.token token.id slotType) (token.effectFor slotType)

/-- The fault of a token that comes after the tokens `before`. -/
def tokenFault? (before : List Token) (token : Token) : Option CatalogFault :=
  if before.any (·.id = token.id) then some (.tokenId token.id)
  else if before.any (·.name = token.name) then some (.tokenName token.name)
  else if before.any (·.rune = token.rune) then some (.tokenRune token.rune)
  else
    match token.storySequence? with
    | some sequence =>
      if before.any (·.storySequence? = some sequence) then some (.tokenSequence sequence)
      else tokenEffectFault? token
    | none => tokenEffectFault? token

/-- The first fault of an entry, each judged by those before it. -/
def firstFault? {α : Type} (fault? : List α → α → Option CatalogFault) (before : List α) :
    List α → Option CatalogFault
  | [] => none
  | entry :: entries =>
    match fault? before entry with
    | some fault => some fault
    | none => firstFault? fault? (before ++ [entry]) entries

def fault? (catalog : Catalog) : Option CatalogFault :=
  match firstFault? daimonFault? [] catalog.daimons with
  | some fault => some fault
  | none =>
    if catalog.daimons.any (·.storySequence = 0) then firstFault? tokenFault? [] catalog.tokens
    else some .noOpeningDaimon

def validate (catalog : Catalog) : Except CatalogFault Unit :=
  match catalog.fault? with
  | some fault => .error fault
  | none => .ok ()

end Catalog

end BloodStakes
