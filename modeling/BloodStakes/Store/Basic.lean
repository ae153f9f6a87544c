import BloodStakes.Store.Change
import Std.Data.TreeMap

/-! The store of tables, one for each player. -/
namespace BloodStakes

inductive StoreError where
  | playerNotFound (player : PlayerId)
  | playerExists (player : PlayerId)
  | invalid (violation : Violation)
  deriving DecidableEq, Repr

def StoreError.message : StoreError → String
  | playerNotFound player => s!"player {player} not found"
  | playerExists player => s!"player {player} already exists"
  | invalid violation => violation.message

structure Store where
  tables : Std.TreeMap PlayerId Table := {}

namespace Store

def empty : Store := {}

def load (store : Store) (player : PlayerId) : Except StoreError Table :=
  match store.tables[player]? with
  | some table => .ok table
  | none => .error (.playerNotFound player)

theorem load_eq_ok {store : Store} {player : PlayerId} {table : Table} :
    store.load player = .ok table ↔ store.tables[player]? = some table := by
  unfold load
  cases store.tables[player]? <;> simp

/-- Stores a new player, with nothing being played. -/
def insertPlayer (store : Store) (player : Player) : Except StoreError Store :=
  match player.check with
  | .error violation => .error (.invalid violation)
  | .ok () =>
    if store.tables.contains player.id then .error (.playerExists player.id)
    else .ok ⟨store.tables.insert player.id { player := player }⟩

/-- Writes all changes to a player's table, or none of them if one is refused. -/
def commit (store : Store) (player : PlayerId) (changes : Changeset) : Except StoreError Store :=
  match store.tables[player]? with
  | none => .error (.playerNotFound player)
  | some table =>
    match changes.validate table.round? with
    | .error violation => .error (.invalid violation)
    | .ok () => .ok ⟨store.tables.insert player (changes.apply table)⟩

theorem commit_eq_ok {store after : Store} {player : PlayerId} {changes : Changeset} :
    store.commit player changes = .ok after ↔
      ∃ table, store.tables[player]? = some table ∧ changes.validate table.round? = .ok () ∧
        after = ⟨store.tables.insert player (changes.apply table)⟩ := by
  unfold commit
  cases store.tables[player]? with
  | none => simp
  | some table => cases h : changes.validate table.round? <;> simp [h, eq_comm]

end Store

end BloodStakes
