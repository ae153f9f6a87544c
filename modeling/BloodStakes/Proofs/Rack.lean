import Mathlib.Data.List.FinRange
import BloodStakes.Proofs.Sampling

/-!
Drawing in place. A rack keeps all its items and only moves the boundary behind which the drawn
ones stand. Here every place is looked up by number, which fails if there is no such place, and
every loop fails if it is not over after its turns. Nothing ever fails, whatever numbers the tree
holds, and what is drawn from a rack is what is drawn from the urn. So a draw takes items from
distinct places.
-/
namespace BloodStakes

variable {α β ω : Type}

/-- The array with two of its places exchanged. -/
def exchange? (xs : Array α) (i j : Nat) : Option (Array α) :=
  if h : i < xs.size ∧ j < xs.size then some (xs.swap i j h.1 h.2) else none

private theorem exchange?_of_lt {xs : Array α} {i j : Nat} (hi : i < xs.size) (hj : j < xs.size) :
    exchange? xs i j = some (xs.swap i j) := dif_pos ⟨hi, hj⟩

/-- `front` is what `xs` holds at its first places. -/
def IsFront (front xs : Array α) : Prop := ∀ i < front.size, xs[i]? = front[i]?

theorem IsFront.exists_getElem {front xs : Array α} {i : Nat} (h : IsFront front xs)
    (hi : i < front.size) : ∃ hi' : i < xs.size, xs[i] = front[i] := by
  have hsame := h i hi
  rw [Array.getElem?_eq_getElem hi] at hsame
  exact Array.getElem?_eq_some_iff.mp hsame

theorem IsFront.exchange? {front xs : Array α} {i last : Nat} (h : IsFront front xs)
    (hi : i < front.size) (hlast : last < front.size) (hend : last + 1 = front.size) :
    ∃ ys, exchange? xs i last = some ys ∧ IsFront (front.swap i last).pop ys := by
  obtain ⟨hi', hitem⟩ := h.exists_getElem hi
  obtain ⟨hlast', hmoved⟩ := h.exists_getElem hlast
  refine ⟨_, exchange?_of_lt hi' hlast', fun j hj => ?_⟩
  rw [Array.size_pop, Array.size_swap] at hj
  rw [Array.getElem?_pop, Array.size_swap, if_pos hj, Array.getElem?_swap, Array.getElem?_swap,
    hitem, hmoved, h j (by omega)]

theorem IsFront.setIfInBounds {front xs : Array α} {i : Nat} (h : IsFront front xs)
    (hi : front.size ≤ i) (a : α) : IsFront front (xs.setIfInBounds i a) := by
  intro j hj
  rw [Array.getElem?_setIfInBounds, if_neg (by omega), h j hj]

theorem isFront_extract (xs : Array α) (n : Nat) : IsFront (xs.extract 0 n) xs := by
  intro i hi
  rw [Array.size_extract] at hi
  rw [Array.getElem?_extract, if_pos (by omega), Nat.zero_add]

namespace SumTree

section
variable [Add ω]

/-- Adds `delta` to node `pos` and to the nodes above it. -/
def addFrom? (nodes : Array ω) (pos : Nat) (delta : ω) : (turns : Nat) → Option (Array ω)
  | 0 => if pos < nodes.size then none else some nodes
  | turns + 1 =>
    if pos < nodes.size then do
      let node ← nodes[pos]?
      addFrom? (nodes.setIfInBounds pos (node + delta)) (pos + lowBit pos) delta turns
    else some nodes

/-- Every turn moves up, so there are no more turns than nodes. -/
private theorem addFrom?_eq_some {nodes : Array ω} {pos turns : Nat} (delta : ω) (hpos : 0 < pos)
    (hturns : nodes.size ≤ pos + turns) :
    addFrom? nodes pos delta turns = some (addFrom nodes pos delta) := by
  induction turns generalizing nodes pos with
  | zero =>
    have hout : ¬ pos < nodes.size := by omega
    unfold addFrom? addFrom
    rw [if_neg hout, dif_neg (fun h => hout h.2)]
  | succ turns ih =>
    unfold addFrom? addFrom
    by_cases hin : pos < nodes.size
    · have hup := lowBit_pos hpos
      rw [if_pos hin, dif_pos ⟨hpos, hin⟩, Array.getElem?_eq_getElem hin]
      simp only [Option.bind_eq_bind, Option.bind_some, Array.setIfInBounds, hin, ↓reduceDIte]
      apply ih
      · omega
      · simp only [Array.size_set]
        omega
    · rw [if_neg hin, dif_neg (fun h => hin h.2)]

/-- Adds `delta` to the weight at index `i`. -/
def add? (t : SumTree ω) (i : Nat) (delta : ω) : Option (SumTree ω) :=
  (addFrom? t.nodes (i + 1) delta t.nodes.size).map SumTree.mk

theorem add?_eq_some (t : SumTree ω) (i : Nat) (delta : ω) :
    t.add? i delta = some (t.add i delta) := by
  unfold add? add
  rw [addFrom?_eq_some delta (Nat.succ_pos i) (Nat.le_add_left ..), Option.map_some]

def ofList? [OfNat ω 0] (weights : List ω) : Option (SumTree ω) :=
  weights.zipIdx.foldlM (fun t w => t.add? w.2 w.1) (zero weights.length)

theorem ofList?_eq_some [OfNat ω 0] (weights : List ω) :
    ofList? weights = some (ofList weights) := by
  unfold ofList? ofList
  simp only [add?_eq_some]
  exact List.foldlM_pure

end

variable [Sub ω] [LE ω] [DecidableLE ω]

/-- Walks on from `pos` by steps of half the size. -/
def searchFrom? (t : SumTree ω) (target : ω) (pos step : Nat) : (turns : Nat) → Option Nat
  | 0 => if 0 < step then none else some pos
  | turns + 1 =>
    if 0 < step then
      if pos + step ≤ t.size then do
        let sum ← t.nodes[pos + step]?
        if sum ≤ target then t.searchFrom? (target - sum) (pos + step) (step / 2) turns
        else t.searchFrom? target pos (step / 2) turns
      else t.searchFrom? target pos (step / 2) turns
    else some pos

/-- A step of `2 ^ (bits - 1)` is halved `bits` times before nothing is left of it. -/
private theorem searchFrom?_eq_some (t : SumTree ω) (target : ω) (pos bits : Nat) :
    t.searchFrom? target pos (1 <<< bits / 2) bits = some (t.descend bits pos target) := by
  induction bits generalizing pos target with
  | zero => rfl
  | succ bits ih =>
    have hstep : 1 <<< (bits + 1) / 2 = 1 <<< bits := by
      rw [Nat.shiftLeft_succ]
      omega
    have hpos : 0 < 1 <<< bits := by
      rw [Nat.shiftLeft_eq, Nat.one_mul]
      exact Nat.two_pow_pos bits
    rw [hstep, searchFrom?, descend, if_pos hpos]
    by_cases hin : pos + 1 <<< bits ≤ t.size
    · have hnode : pos + 1 <<< bits < t.nodes.size := by
        unfold size at hin
        omega
      rw [if_pos hin, Array.getElem?_eq_getElem hnode]
      simp only [Option.bind_eq_bind, Option.bind_some, ih]
      split <;> rfl
    · have hnode : t.nodes[pos + 1 <<< bits]? = none := by
        apply Array.getElem?_eq_none
        unfold size at hin
        omega
      rw [if_neg hin, hnode, ih]

/-- The greatest step that may fit is the greatest power of two up to the size. -/
def search? (t : SumTree ω) (target : ω) : Option Nat :=
  t.searchFrom? target 0 (if t.size = 0 then 0 else 1 <<< t.size.log2) (t.size.log2 + 1)

theorem search?_eq_some (t : SumTree ω) (target : ω) :
    t.search? target = some (t.search target) := by
  unfold search? search
  split
  · rfl
  · have hstep : 1 <<< t.size.log2 = 1 <<< (t.size.log2 + 1) / 2 := by
      rw [Nat.shiftLeft_succ]
      omega
    rw [hstep, searchFrom?_eq_some]

end SumTree

/-- The items and their weights; the first `left` of them have not been drawn. -/
structure Rack (α ω : Type) where
  items : Array α
  weights : Array ω
  tree : SumTree ω
  total : ω
  left : Nat

namespace Rack

section
variable [Add ω] [Sub ω] [Neg ω] [LT ω] [DecidableLT ω] [OfNat ω 0]

def ofList? (items : List α) (weights : List ω) : Option (Rack α ω) := do
  let tree ← SumTree.ofList? weights
  return {
    items := items.toArray, weights := weights.toArray, tree
    total := weights.foldl (· + ·) 0, left := items.length }

/-- Moves the item at place `i` behind the boundary. -/
def take? (rack : Rack α ω) (i : Nat) : Option (α × Rack α ω) := do
  let last := rack.left - 1
  let item ← rack.items[i]?
  let removed ← rack.weights[i]?
  let moved ← rack.weights[last]?
  let tree ← if i = last then some rack.tree else rack.tree.add? i (moved - removed)
  let items ← exchange? rack.items i last
  let weights ← exchange? rack.weights i last
  let tree ← tree.add? last (-moved)
  let total := rack.total - removed
  return (item, {
    items, weights := weights.setIfInBounds last 0, tree
    total := if total < 0 then 0 else total, left := last })

end

/-- The place that chance picks. -/
def pick? (rack : Rack α Float) (rng : Rng) : Option (Nat × Rng) :=
  if 0 < rack.total then do
    let (fraction, rng) := rng.fraction
    let place ← rack.tree.search? (fraction * rack.total)
    return (min place (rack.left - 1), rng)
  else
    let (i?, rng) := rng.pick rack.left
    some ((i?.map Fin.val).getD 0, rng)

def draw? (rack : Rack α Float) (rng : Rng) : Option ((α × Rack α Float) × Rng) := do
  let (place, rng) ← rack.pick? rng
  let drawn ← rack.take? place
  return (drawn, rng)

def drawMany? (rack : Rack α Float) (rng : Rng) : (count : Nat) → Option (List α × Rng)
  | 0 => some ([], rng)
  | count + 1 =>
    if 0 < rack.left then do
      let ((item, rack), rng) ← rack.draw? rng
      let (items, rng) ← rack.drawMany? rng count
      return (item :: items, rng)
    else some ([], rng)

/-- Before the boundary the rack holds what is left in the urn. -/
structure Holds (rack : Rack α ω) (urn : Urn α ω) : Prop where
  left : rack.left = urn.size
  items : IsFront urn.items rack.items
  weights : IsFront urn.weights rack.weights
  tree : rack.tree = urn.tree
  total : rack.total = urn.total

theorem exists_ofList? [Add ω] [OfNat ω 0] {items : List α} {weights : List ω}
    (h : items.length = weights.length) :
    ∃ rack, ofList? items weights = some rack ∧ rack.Holds (.ofList items weights h) := by
  unfold ofList?
  rw [SumTree.ofList?_eq_some]
  exact ⟨_, rfl, by simp [Urn.ofList, Urn.size], fun _ _ => rfl, fun _ _ => rfl, rfl, rfl⟩

theorem ofList?_places [Add ω] [OfNat ω 0] {items : List α} {weights : List ω} {rack : Rack α ω}
    (h : ofList? items weights = some rack) :
    rack.items = items.toArray ∧ rack.weights = weights.toArray ∧ rack.left = items.length := by
  unfold ofList? at h
  rw [SumTree.ofList?_eq_some] at h
  cases h
  exact ⟨rfl, rfl, rfl⟩

private theorem exists_holds (rack : Rack α ω) (hitems : rack.left ≤ rack.items.size)
    (hweights : rack.left ≤ rack.weights.size) : ∃ urn : Urn α ω, rack.Holds urn := by
  refine ⟨⟨rack.items.extract 0 rack.left, rack.weights.extract 0 rack.left, rack.tree,
    rack.total, ?_⟩, ?_, ?_, ?_, rfl, rfl⟩
  · simp [hitems, hweights]
  · simp [Urn.size, hitems]
  · exact isFront_extract rack.items rack.left
  · exact isFront_extract rack.weights rack.left

section
variable [Add ω] [Sub ω] [Neg ω] [LT ω] [DecidableLT ω] [OfNat ω 0]
variable {rack : Rack α ω} {urn : Urn α ω}

/-- Every place that is looked up is there, and the urn has the same item drawn. -/
theorem Holds.take? (h : rack.Holds urn) (i : Nat) (hi : i < urn.size) :
    ∃ rack', rack.take? i = some ((urn.remove i hi).1, rack') ∧
      rack'.Holds (urn.remove i hi).2 := by
  have hsize : urn.weights.size = urn.size := urn.size_weights
  have hlast : urn.size - 1 < urn.size := by omega
  have hend : urn.size - 1 + 1 = urn.size := by omega
  have hwi : i < urn.weights.size := hsize ▸ hi
  have hwlast : urn.size - 1 < urn.weights.size := hsize ▸ hlast
  obtain ⟨hi₁, hitem⟩ := h.items.exists_getElem hi
  obtain ⟨hi₂, hremoved⟩ := h.weights.exists_getElem hwi
  obtain ⟨hlast₂, hmoved⟩ := h.weights.exists_getElem hwlast
  obtain ⟨items, hitems, hfront⟩ := h.items.exchange? hi hlast hend
  obtain ⟨weights, hweights, hfront'⟩ := h.weights.exchange? hwi hwlast (by omega)
  unfold Rack.take?
  simp only [h.left, h.tree, h.total, Array.getElem?_eq_getElem hi₁, hitem,
    Array.getElem?_eq_getElem hi₂, hremoved, Array.getElem?_eq_getElem hlast₂, hmoved, hitems,
    hweights, SumTree.add?_eq_some, Option.bind_eq_bind, Option.bind_some]
  have hleft : urn.size - 1 = (urn.remove i hi).2.size := (urn.size_remove i hi).symm
  have hbehind : IsFront (urn.remove i hi).2.weights
      (weights.setIfInBounds (urn.size - 1) 0) := by
    apply hfront'.setIfInBounds
    simp [hsize]
  split
  · next hsame => exact ⟨_, rfl, hleft, hfront, hbehind, by simp [Urn.remove, hsame], rfl⟩
  · next hother => exact ⟨_, rfl, hleft, hfront, hbehind, by simp [Urn.remove, hother], rfl⟩

end

variable {rack : Rack α Float} {urn : Urn α Float}

theorem Holds.pick? (h : rack.Holds urn) (rng : Rng) (hurn : 0 < urn.size) :
    ∃ (i : Nat) (hi : i < urn.size) (rng' : Rng), rack.pick? rng = some (i, rng') ∧
      urn.draw rng hurn = (urn.remove i hi, rng') := by
  obtain ⟨items, weights, tree, total, left⟩ := rack
  obtain ⟨rfl, -, -, rfl, rfl⟩ := h
  unfold Rack.pick? Urn.draw
  split
  · obtain ⟨fraction, rng'⟩ := rng.fraction
    dsimp only
    rw [SumTree.search?_eq_some]
    exact ⟨_, urn.locate_lt (fraction * urn.total) hurn, rng', rfl, rfl⟩
  · unfold Rng.pick
    rw [dif_pos hurn]
    obtain ⟨i, rng'⟩ := rng.choose urn.size hurn
    exact ⟨i.val, i.isLt, rng', rfl, rfl⟩

theorem Holds.draw? (h : rack.Holds urn) (rng : Rng) (hurn : 0 < urn.size) :
    ∃ rack', rack.draw? rng = some (((urn.draw rng hurn).1.1, rack'), (urn.draw rng hurn).2) ∧
      rack'.Holds (urn.draw rng hurn).1.2 := by
  obtain ⟨i, hi, rng', hpick, hdraw⟩ := h.pick? rng hurn
  obtain ⟨rack', htake, hrack'⟩ := h.take? i hi
  unfold Rack.draw?
  rw [hpick, hdraw, Option.bind_eq_bind, Option.bind_some]
  dsimp only
  rw [htake]
  exact ⟨rack', rfl, hrack'⟩

theorem Holds.drawMany? (h : rack.Holds urn) (rng : Rng) (count : Nat) :
    rack.drawMany? rng count = some (urn.drawMany rng count) := by
  induction count generalizing rack urn rng with
  | zero => rfl
  | succ count ih =>
    unfold Rack.drawMany? Urn.drawMany
    rw [h.left]
    by_cases hurn : 0 < urn.size
    · obtain ⟨rack', hdraw, hrack'⟩ := h.draw? rng hurn
      simp only [if_pos hurn, dif_pos hurn, hdraw, ih hrack', Option.bind_eq_bind,
        Option.bind_some]
      rfl
    · rw [if_neg hurn, dif_neg hurn]

end Rack

/-- The items drawn in place, or nothing if a place was missing or a loop did not end. -/
def sampleInPlace? (items : List α) (weights : List Float) (count : Nat) (rng : Rng) :
    Option (List α × Rng) := do
  let rack ← Rack.ofList? items (weights.map usableWeight)
  rack.drawMany? rng count

private theorem sampleInPlace?_eq_some {items : List α} {weights : List Float}
    (h : items.length = weights.length) (count : Nat) (rng : Rng) :
    ∃ drawn, sampleInPlace? items weights count rng = some drawn ∧
      sample items weights count rng = .ok drawn := by
  have husable : items.length = (weights.map usableWeight).length := by simpa using h
  obtain ⟨rack, hrack, hholds⟩ := Rack.exists_ofList? husable
  unfold sampleInPlace? sample
  rw [hrack, dif_pos h]
  exact ⟨_, hholds.drawMany? rng count, rfl⟩

private theorem swap_map (f : α → β) (xs : Array α) {i j : Nat} (hi : i < xs.size)
    (hj : j < xs.size) :
    (xs.map f).swap i j (by simpa using hi) (by simpa using hj) = (xs.swap i j).map f := by
  ext k hk
  · simp
  · simp only [Array.getElem_swap, Array.getElem_map]
    split
    · rfl
    · split <;> rfl

namespace Urn

def map (f : α → β) (urn : Urn α ω) : Urn β ω :=
  { urn with items := urn.items.map f, size_weights := by simp [urn.size_weights] }

theorem size_map (f : α → β) (urn : Urn α ω) : (urn.map f).size = urn.size := by
  simp [map, size]

theorem remove_map [Add ω] [Sub ω] [Neg ω] [LT ω] [DecidableLT ω] [OfNat ω 0] (f : α → β)
    (urn : Urn α ω) (i : Nat) (h : i < urn.size) (h' : i < (urn.map f).size) :
    (urn.map f).remove i h' = (f (urn.remove i h).1, (urn.remove i h).2.map f) := by
  have hlast : urn.size - 1 < urn.size := by omega
  simp only [remove, map, Array.size_map, Array.getElem_map, swap_map f urn.items h hlast,
    Array.map_pop]
  rfl

private theorem draw_map (f : α → β) (urn : Urn α Float) (rng : Rng) (h : 0 < urn.size)
    (h' : 0 < (urn.map f).size) :
    (urn.map f).draw rng h' =
      ((f (urn.draw rng h).1.1, (urn.draw rng h).1.2.map f), (urn.draw rng h).2) := by
  have hlocate (target : Float) : (urn.map f).locate target = urn.locate target := by
    unfold locate
    rw [size_map]
    rfl
  have hchoose : ∀ n (hn : 0 < n), n = urn.size →
      (rng.choose n hn).1.val = (rng.choose urn.size h).1.val ∧
        (rng.choose n hn).2 = (rng.choose urn.size h).2 := by
    rintro _ _ rfl
    exact ⟨rfl, rfl⟩
  obtain ⟨hplace, hrng⟩ := hchoose _ h' (urn.size_map f)
  unfold draw
  have htotal : (urn.map f).total = urn.total := rfl
  simp only [htotal, hlocate, hplace, hrng]
  split
  · rw [remove_map]
  · rw [remove_map]

private theorem drawMany_map (f : α → β) (urn : Urn α Float) (rng : Rng) (count : Nat) :
    (urn.map f).drawMany rng count =
      ((urn.drawMany rng count).1.map f, (urn.drawMany rng count).2) := by
  induction count generalizing urn rng with
  | zero => rfl
  | succ count ih =>
    unfold drawMany
    by_cases h : 0 < urn.size
    · have h' : 0 < (urn.map f).size := by rwa [size_map]
      rw [dif_pos h, dif_pos h', draw_map f urn rng h h']
      simp only [ih, List.map_cons]
    · have h' : ¬ 0 < (urn.map f).size := by rwa [size_map]
      rw [dif_neg h, dif_neg h']
      rfl

end Urn

theorem sample_map (f : α → β) (items : List α) (weights : List Float) (count : Nat) (rng : Rng) :
    sample (items.map f) weights count rng =
      (sample items weights count rng).map fun drawn => (drawn.1.map f, drawn.2) := by
  unfold sample
  by_cases h : items.length = weights.length
  · have h' : (items.map f).length = weights.length := by rwa [List.length_map]
    have hurn : Urn.ofList (items.map f) (weights.map usableWeight) (by simp [h]) =
        (Urn.ofList items (weights.map usableWeight) (by simp [h])).map f := by
      simp [Urn.ofList, Urn.map]
    rw [dif_pos h, dif_pos h', hurn]
    dsimp only
    rw [Urn.drawMany_map]
    rfl
  · have h' : ¬ (items.map f).length = weights.length := by rwa [List.length_map]
    rw [dif_neg h, dif_neg h', List.length_map]
    rfl

/-- A draw fails only for want of weights. Else it takes as many items as it can from distinct
places, the ones it takes from the list of places themselves, and does so in place. A draw in
place never looks up what is not there and never loops on, whatever the tree holds. -/
theorem sample_distinct (items : List α) (weights : List Float) (count : Nat) (rng : Rng) :
    (∀ e, sample items weights count rng = .error e ↔
      items.length ≠ weights.length ∧ e = ⟨items.length, weights.length⟩) ∧
    (items.length = weights.length → ∃ (places : List (Fin items.length)) (rng' : Rng),
      sample (List.finRange items.length) weights count rng = .ok (places, rng') ∧
      sample items weights count rng = .ok (places.map items.get, rng') ∧
      sampleInPlace? items weights count rng = some (places.map items.get, rng') ∧
      places.Nodup ∧ places.length = min count items.length ∧
      (items.length ≤ count → (places.map items.get).Perm items)) ∧
    (∀ rack : Rack α Float, rack.left ≤ rack.items.size → rack.left ≤ rack.weights.size →
      ∃ drawn, rack.drawMany? rng count = some drawn) := by
  refine ⟨fun e => ?_, fun h => ?_, fun rack hitems hweights => ?_⟩
  · unfold sample
    split
    · next h => simp [h]
    · next h => simp [h, eq_comm]
  · obtain ⟨drawn, hinPlace, hdrawn⟩ := sampleInPlace?_eq_some h count rng
    have hplaces := sample_map items.get (List.finRange items.length) weights count rng
    rw [List.map_get_finRange, hdrawn] at hplaces
    cases hsample : sample (List.finRange items.length) weights count rng with
    | error e =>
      rw [hsample] at hplaces
      cases hplaces
    | ok result =>
      obtain ⟨places, rng'⟩ := result
      rw [hsample] at hplaces
      cases hplaces
      obtain ⟨left, hperm, hlength⟩ := sample_perm hsample
      rw [List.length_finRange] at hlength
      have hnodup := hperm.nodup_iff.mpr (List.nodup_finRange _)
      refine ⟨places, rng', rfl, hdrawn, hinPlace, (List.nodup_append.mp hnodup).1, hlength, ?_⟩
      intro hcount
      exact sample_all_perm hcount hdrawn
  · obtain ⟨urn, hurn⟩ := rack.exists_holds hitems hweights
    exact ⟨_, hurn.drawMany? rng count⟩

/-- None of the weights counts, neither in the urn nor in the rack made of them. -/
theorem sample_distinct_unusable :
    ([5, 5, 7] : List Nat).length = [0 / 0, -1, 1 / 0].length ∧
    (∃ (places : List (Fin 3)) (rng' : Rng),
      sample [5, 5, 7] [0 / 0, -1, 1 / 0] 2 (.ofSeed 7) =
        .ok (places.map [5, 5, 7].get, rng') ∧ places.Nodup ∧ places.length = 2) ∧
    ∃ rack drawn, Rack.ofList? [5, 5, 7] ([0 / 0, -1, 1 / 0].map usableWeight) = some rack ∧
      rack.drawMany? (.ofSeed 7) 2 = some drawn := by
  obtain ⟨-, hdraw, hinPlace⟩ :=
    sample_distinct ([5, 5, 7] : List Nat) [0 / 0, -1, 1 / 0] 2 (.ofSeed 7)
  obtain ⟨places, rng', -, hdrawn, -, hnodup, hlength, -⟩ := hdraw rfl
  have husable : [5, 5, 7].length = ([0 / 0, -1, 1 / 0].map usableWeight).length := by
    rw [List.length_map]
    rfl
  obtain ⟨rack, hrack⟩ := Rack.exists_ofList? husable
  obtain ⟨hitems, hweights, hleft⟩ := Rack.ofList?_places hrack.1
  obtain ⟨drawn, hinPlace⟩ := hinPlace rack (by rw [hitems, hleft]; decide)
    (by rw [hweights, hleft]; decide)
  exact ⟨rfl, ⟨places, rng', hdrawn, hnodup, hlength⟩, rack, drawn, hrack.1, hinPlace⟩

end BloodStakes
