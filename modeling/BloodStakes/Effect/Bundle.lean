import BloodStakes.Effect.Action

/-! Effect bundles: at most one value and phase for each action. -/
namespace BloodStakes

structure Entry where
  value : Float
  phase : Phase

structure Bundle where
  lookup : Action → Option Entry

namespace Bundle

def empty : Bundle := ⟨fun _ => none⟩

instance : Inhabited Bundle := ⟨empty⟩

def insert (b : Bundle) (action : Action) (entry : Entry) : Bundle :=
  ⟨fun a => if a = action then some entry else b.lookup a⟩

def ofList (entries : List (Action × Entry)) : Bundle :=
  entries.foldl (fun b e => b.insert e.1 e.2) empty

/-- The entries present, in the order of `Action.all`. -/
def toList (b : Bundle) : List (Action × Entry) :=
  Action.all.filterMap fun a => (b.lookup a).map (a, ·)

def size (b : Bundle) : Nat := b.toList.length

def isEmpty (b : Bundle) : Bool := b.toList.isEmpty

/-- The value of `action` if its entry fires on `phase`. -/
def valueOn (b : Bundle) (action : Action) (phase : Phase) : Option Float :=
  match b.lookup action with
  | some e => if e.phase = phase then some e.value else none
  | none => none

@[simp] theorem lookup_empty (a : Action) : empty.lookup a = none := rfl

@[simp] theorem lookup_insert (b : Bundle) (action a : Action) (e : Entry) :
    (b.insert action e).lookup a = if a = action then some e else b.lookup a := rfl

end Bundle

end BloodStakes
