import BloodStakes.Random.Rng
import BloodStakes.Sample.SumTree

/-!
Drawing items by weight without putting them back. The items still in the urn stand at the
front; a drawn item changes places with the last of them, so its weight leaves the tree by
two updates.
-/
namespace BloodStakes

/-- The items left with their weights; the tree keeps the places of drawn items at zero. -/
structure Urn (α ω : Type) where
  items : Array α
  weights : Array ω
  tree : SumTree ω
  total : ω
  size_weights : weights.size = items.size

namespace Urn

variable {α ω : Type}

/-- The number of items left. -/
abbrev size (urn : Urn α ω) : Nat := urn.items.size

def ofList [Add ω] [OfNat ω 0] (items : List α) (weights : List ω)
    (h : items.length = weights.length) : Urn α ω where
  items := items.toArray
  weights := weights.toArray
  tree := .ofList weights
  total := weights.foldl (· + ·) 0
  size_weights := by simp [h]

section
variable [Sub ω] [LE ω] [DecidableLE ω]

/-- The index whose share of the total holds `target`. -/
def locate (urn : Urn α ω) (target : ω) : Nat :=
  min (urn.tree.search target) (urn.size - 1)

theorem locate_lt (urn : Urn α ω) (target : ω) (h : 0 < urn.size) :
    urn.locate target < urn.size := by
  unfold locate
  omega

end

section
variable [Add ω] [Sub ω] [Neg ω] [LT ω] [DecidableLT ω] [OfNat ω 0]

/-- Takes out the item at index `i`. -/
def remove (urn : Urn α ω) (i : Nat) (h : i < urn.size) : α × Urn α ω :=
  let last := urn.items.size - 1
  have hi : i < urn.items.size := h
  have hlast : last < urn.items.size := by omega
  have wi : i < urn.weights.size := urn.size_weights ▸ hi
  have wlast : last < urn.weights.size := urn.size_weights ▸ hlast
  let removed := urn.weights[i]
  let moved := urn.weights[last]
  let tree := if i = last then urn.tree else urn.tree.add i (moved - removed)
  let total := urn.total - removed
  (urn.items[i], {
    items := (urn.items.swap i last).pop
    weights := (urn.weights.swap i last).pop
    tree := tree.add last (-moved)
    total := if total < 0 then 0 else total
    size_weights := by simp [urn.size_weights] })

@[simp] theorem size_remove (urn : Urn α ω) (i : Nat) (h : i < urn.size) :
    (urn.remove i h).2.size = urn.size - 1 := by
  simp [remove, size]

end

/-- Draws one item: by weight while there is any, else evenly. -/
def draw (urn : Urn α Float) (rng : Rng) (h : 0 < urn.size) : (α × Urn α Float) × Rng :=
  if 0 < urn.total then
    let (fraction, rng) := rng.fraction
    let target := fraction * urn.total
    (urn.remove (urn.locate target) (urn.locate_lt target h), rng)
  else
    let (i, rng) := rng.choose urn.size h
    (urn.remove i.val i.isLt, rng)

/-- Draws up to `count` items. -/
def drawMany (urn : Urn α Float) (rng : Rng) : (count : Nat) → List α × Rng
  | 0 => ([], rng)
  | count + 1 =>
    if h : 0 < urn.size then
      let ((item, urn), rng) := urn.draw rng h
      let (items, rng) := urn.drawMany rng count
      (item :: items, rng)
    else ([], rng)

end Urn

/-- Items and weights that do not match in number. -/
structure SizeMismatch where
  items : Nat
  weights : Nat
  deriving DecidableEq, Repr

def SizeMismatch.message (e : SizeMismatch) : String :=
  s!"items and weights size must match ({e.items} != {e.weights})"

/-- A weight as it counts in a draw: one that is negative or not finite counts as nothing. -/
def usableWeight (weight : Float) : Float :=
  if weight.isFinite ∧ 0 < weight then weight else 0

/-- Draws up to `count` of the items by weight, without putting any back. -/
def sample {α : Type} (items : List α) (weights : List Float) (count : Nat) (rng : Rng) :
    Except SizeMismatch (List α × Rng) :=
  if h : items.length = weights.length then
    let urn := Urn.ofList items (weights.map usableWeight) (by simp [h])
    .ok (urn.drawMany rng count)
  else .error ⟨items.length, weights.length⟩

end BloodStakes
