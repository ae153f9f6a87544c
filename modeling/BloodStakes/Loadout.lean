import BloodStakes.Effect.Log

/-! Token slots: how many of each type a player may hold, and what sits in them. -/
namespace BloodStakes

abbrev SlotId := Nat

inductive SlotType where
  | inscribed
  | oathbound
  | offering
  deriving DecidableEq, Repr

namespace SlotType

def all : List SlotType := [inscribed, oathbound, offering]

def name : SlotType → String
  | inscribed => "Inscribed"
  | oathbound => "Oathbound"
  | offering => "Offering"

/-- The most slots of this type a player may hold. -/
def limit : SlotType → Nat
  | inscribed => 1
  | oathbound => 2
  | offering => 3

end SlotType

structure Slot where
  id : SlotId
  slotType : SlotType
  token? : Option TokenId := none
  deriving DecidableEq, Repr

structure Loadout where
  slots : List Slot := []
  deriving DecidableEq, Repr

inductive LoadoutError where
  | slotLimit (slotType : SlotType)
  | unknownSlot (slot : SlotId)
  | alreadyEquipped (token : TokenId) (slot : SlotId)
  | notOwned (token : TokenId)
  deriving DecidableEq, Repr

def LoadoutError.message : LoadoutError → String
  | .slotLimit slotType => s!"player can only have {slotType.limit} {slotType.name} slots"
  | .unknownSlot slot => s!"unknown slot {slot}"
  | .alreadyEquipped token slot => s!"token {token} is already assigned to slot {slot}"
  | .notOwned token => s!"token {token} is not owned by the player"

namespace Loadout

/-- As many slots of every type as its limit allows, numbered from 1. -/
def full : Loadout where
  slots := (SlotType.all.flatMap fun t => List.replicate t.limit t).zipIdx 1
    |>.map fun (slotType, id) => { id := id, slotType := slotType }

def count (loadout : Loadout) (slotType : SlotType) : Nat :=
  loadout.slots.countP (·.slotType = slotType)

def slot? (loadout : Loadout) (id : SlotId) : Option Slot :=
  loadout.slots.find? (·.id = id)

def inscribed? (loadout : Loadout) : Option Slot :=
  loadout.slots.find? (·.slotType = .inscribed)

def nextId (loadout : Loadout) : SlotId :=
  (loadout.slots.map Slot.id).foldl max 0 + 1

def addSlot (loadout : Loadout) (slotType : SlotType) : Except LoadoutError (SlotId × Loadout) :=
  if slotType.limit ≤ loadout.count slotType then .error (.slotLimit slotType)
  else
    let id := loadout.nextId
    .ok (id, ⟨loadout.slots ++ [{ id := id, slotType := slotType }]⟩)

/-- Puts `token?` into the first slot numbered `id`. -/
def setToken (id : SlotId) (token? : Option TokenId) : List Slot → List Slot
  | [] => []
  | slot :: slots =>
    if slot.id = id then { slot with token? } :: slots else slot :: setToken id token? slots

/-- Places a token, which must not sit in any other slot. -/
def equip (loadout : Loadout) (id : SlotId) (token : TokenId) : Except LoadoutError Loadout :=
  match loadout.slots.find? fun slot => slot.id ≠ id ∧ slot.token? = some token with
  | some other => .error (.alreadyEquipped token other.id)
  | none =>
    match loadout.slot? id with
    | none => .error (.unknownSlot id)
    | some _ => .ok ⟨setToken id (some token) loadout.slots⟩

/-- Empties a slot; gives back what was in it. -/
def unequip (loadout : Loadout) (id : SlotId) :
    Except LoadoutError (Option TokenId × Loadout) :=
  match loadout.slot? id with
  | none => .error (.unknownSlot id)
  | some slot => .ok (slot.token?, ⟨setToken id none loadout.slots⟩)

end Loadout

end BloodStakes
