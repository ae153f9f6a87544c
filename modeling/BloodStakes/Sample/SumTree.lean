/-!
A tree of partial sums over a fixed number of weights, held in one array. Node `i` sums the
weights in the block of `lowBit i` places that ends at place `i`, counted from 1; changing a
weight and finding the place where a running sum passes a target both touch only
logarithmically many nodes.
-/
namespace BloodStakes

/-- The value of the lowest binary digit of `n` that is set. -/
def lowBit (n : Nat) : Nat :=
  n - (n &&& (n - 1))

theorem lowBit_pos {n : Nat} (h : 0 < n) : 0 < lowBit n := by
  have : n &&& (n - 1) ≤ n - 1 := Nat.and_le_right
  unfold lowBit
  omega

/-- Node 0 is unused. -/
structure SumTree (ω : Type) where
  nodes : Array ω

namespace SumTree

variable {ω : Type} [Add ω] [Sub ω] [LE ω] [DecidableLE ω] [OfNat ω 0]

/-- The number of weights. -/
def size (t : SumTree ω) : Nat := t.nodes.size - 1

/-- Adds `delta` to node `pos` and to every node above it. -/
def addFrom (nodes : Array ω) (pos : Nat) (delta : ω) : Array ω :=
  if h : 0 < pos ∧ pos < nodes.size then
    addFrom (nodes.set pos (nodes[pos] + delta)) (pos + lowBit pos) delta
  else nodes
termination_by nodes.size - pos
decreasing_by
  have := lowBit_pos h.1
  simp only [Array.size_set]
  omega

/-- Adds `delta` to the weight at index `i`. -/
def add (t : SumTree ω) (i : Nat) (delta : ω) : SumTree ω :=
  ⟨addFrom t.nodes (i + 1) delta⟩

/-- The tree of `n` weights of zero. -/
def zero (n : Nat) : SumTree ω :=
  ⟨Array.replicate (n + 1) 0⟩

def ofList (weights : List ω) : SumTree ω :=
  weights.zipIdx.foldl (fun t w => t.add w.2 w.1) (zero weights.length)

/-- Walks down from `pos` by steps of `2 ^ (bits - 1)`, …, 2, 1, past every node that fits
into what is left of the target. -/
def descend (t : SumTree ω) : (bits : Nat) → (pos : Nat) → (target : ω) → Nat
  | 0, pos, _ => pos
  | bits + 1, pos, target =>
    match t.nodes[pos + 1 <<< bits]? with
    | some sum =>
      if sum ≤ target then t.descend bits (pos + 1 <<< bits) (target - sum)
      else t.descend bits pos target
    | none => t.descend bits pos target

/-- The index of the first weight at which the running sum exceeds `target`. -/
def search (t : SumTree ω) (target : ω) : Nat :=
  if t.size = 0 then 0 else t.descend (t.size.log2 + 1) 0 target

end SumTree

end BloodStakes
