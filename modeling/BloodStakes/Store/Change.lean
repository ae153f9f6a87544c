import BloodStakes.Table.Basic

/-! What one action writes: a change for each part of a table. -/
namespace BloodStakes

inductive Change (α : Type) where
  | keep
  | put (value : α)
  | remove
  deriving DecidableEq, Repr

namespace Change

variable {α : Type}

def isKeep : Change α → Bool
  | keep => true
  | _ => false

def apply : Change α → Option α → Option α
  | keep, stored => stored
  | put value, _ => some value
  | remove, _ => none

@[simp] theorem apply_keep (stored : Option α) : keep.apply stored = stored := rfl

@[simp] theorem apply_put (value : α) (stored : Option α) :
    (put value).apply stored = some value := rfl

@[simp] theorem apply_remove (stored : Option α) : remove.apply stored = none := rfl

/-- The change that leaves `value?`, if it was touched. -/
def ofTouched (touched : Bool) (value? : Option α) : Change α :=
  if touched then
    match value? with
    | some value => put value
    | none => remove
  else keep

end Change

/-- The changes of one action, which are written together or not at all. -/
structure Changeset where
  player? : Option Player := none
  game : Change Game := .keep
  round : Change Round := .keep
  hand : Change Hand := .keep
  deriving DecidableEq, Repr

namespace Changeset

def isEmpty (changes : Changeset) : Bool :=
  changes.player?.isNone && changes.game.isKeep && changes.round.isKeep && changes.hand.isKeep

/-- Checks the value of a change, if it puts one. -/
def checkPut {α : Type} (check : α → Except Violation Unit) : Change α → Except Violation Unit
  | .put value => check value
  | _ => .ok ()

/-- The most blood `player` may hold while `round?` is being played. -/
def ceilingFor (player : Player) (round? : Option Round) : Int :=
  match round? with
  | some round => round.ceiling
  | none => player.maxBloodPool

/-- Checks every part that would be written. The player's pool is bounded by the round that
will be stored afterwards. -/
def validate (changes : Changeset) (storedRound? : Option Round) : Except Violation Unit := do
  match changes.player? with
  | some player =>
    player.checkWithin (ceilingFor player (changes.round.apply storedRound?))
  | none => .ok ()
  checkPut Game.check changes.game
  checkPut Round.check changes.round
  checkPut Hand.check changes.hand

def apply (changes : Changeset) (table : Table) : Table where
  player := changes.player?.getD table.player
  game? := changes.game.apply table.game?
  round? := changes.round.apply table.round?
  hand? := changes.hand.apply table.hand?

end Changeset

end BloodStakes
