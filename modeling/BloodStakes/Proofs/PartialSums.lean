import Mathlib.Algebra.BigOperators.Intervals
import Mathlib.Algebra.Order.BigOperators.Group.Finset
import Mathlib.Data.Rat.Defs
import Mathlib.Tactic.Ring
import BloodStakes.Sample.SumTree

/-!
The tree of partial sums over exact numbers. Its nodes are the sums of the blocks they stand for,
changes of a weight keep them so, and a search finds the one place whose share of the running sum
holds the target.
-/
namespace BloodStakes

open Finset

theorem exists_two_pow_add {n : Nat} (h : 0 < n) : ∃ k q, n = 2 ^ (k + 1) * q + 2 ^ k := by
  induction n using Nat.strongRecOn with
  | _ n ih =>
    rcases Nat.mod_two_eq_zero_or_one n with heven | hodd
    · obtain ⟨k, q, hhalf⟩ := ih (n / 2) (by omega) (by omega)
      refine ⟨k + 1, q, ?_⟩
      rw [Nat.pow_succ 2 (k + 1), Nat.mul_right_comm]
      omega
    · exact ⟨0, n / 2, by omega⟩

theorem lowBit_two_pow_add (k q : Nat) : lowBit (2 ^ (k + 1) * q + 2 ^ k) = 2 ^ k := by
  have hpow := Nat.two_pow_pos k
  have hless : 2 ^ k < 2 ^ (k + 1) := Nat.pow_lt_pow_right (by decide) (Nat.lt_succ_self k)
  have hclear : (2 ^ (k + 1) * q + 2 ^ k) &&& (2 ^ (k + 1) * q + 2 ^ k - 1) = 2 ^ (k + 1) * q := by
    rw [Nat.add_sub_assoc hpow]
    apply Nat.eq_of_testBit_eq
    intro i
    rw [Nat.testBit_and, Nat.testBit_two_pow_mul_add _ hless,
      Nat.testBit_two_pow_mul_add _ (by omega), Nat.testBit_two_pow_mul, Nat.testBit_two_pow,
      Nat.testBit_two_pow_sub_one]
    by_cases hi : i < k + 1
    · by_cases hk : k = i
      · simp [hk]
      · simp [hi, hk]
        omega
    · simp [hi, Nat.not_lt.mp hi]
  unfold lowBit
  omega

theorem mul_le_or_lt (unit a b : Nat) : unit * a ≤ unit * b ∨ unit * b + unit ≤ unit * a := by
  rcases Nat.lt_or_ge b a with h | h
  · exact .inr (Nat.mul_le_mul_left unit h)
  · exact .inl (Nat.mul_le_mul_left unit h)

theorem covers_iff {pos j : Nat} (hpos : 0 < pos) : (j - lowBit j < pos ∧ pos ≤ j) ↔
    j = pos ∨ (j - lowBit j < pos + lowBit pos ∧ pos + lowBit pos ≤ j) := by
  rcases Nat.eq_zero_or_pos j with rfl | hj
  · omega
  obtain ⟨k, q, rfl⟩ := exists_two_pow_add hpos
  obtain ⟨m, r, rfl⟩ := exists_two_pow_add hj
  rw [lowBit_two_pow_add, lowBit_two_pow_add, Nat.add_sub_cancel]
  have hk := Nat.two_pow_pos k
  have hm := Nat.two_pow_pos m
  rcases Nat.lt_or_ge k m with hless | hge
  · -- both ends of the block of `j` are multiples of `2 ^ (k + 1)`, and `pos` is amid two of them
    obtain ⟨d, rfl⟩ := Nat.exists_eq_add_of_lt hless
    have hstart : 2 ^ (k + d + 1 + 1) * r = 2 ^ (k + 1) * (2 ^ (d + 1) * r) := by ring
    have hend : 2 ^ (k + d + 1 + 1) * r + 2 ^ (k + d + 1) =
        2 ^ (k + 1) * (2 ^ (d + 1) * r + 2 ^ d) := by ring
    have hhalf : 2 ^ (k + 1) = 2 ^ k + 2 ^ k := by ring
    rw [hend, hstart]
    generalize 2 ^ (d + 1) * r + 2 ^ d = last
    generalize 2 ^ (d + 1) * r = first
    have hfirst := mul_le_or_lt (2 ^ (k + 1)) first q
    have hlast := mul_le_or_lt (2 ^ (k + 1)) last q
    omega
  · -- the block of `j` is one unit, and `pos` and the next are multiples of it
    obtain ⟨d, rfl⟩ := Nat.exists_eq_add_of_le hge
    have hpos : 2 ^ (m + d + 1) * q + 2 ^ (m + d) = 2 ^ m * (2 ^ (d + 1) * q + 2 ^ d) := by ring
    have hnext : 2 ^ (m + d + 1) * q + 2 ^ (m + d) + 2 ^ (m + d) =
        2 ^ (m + 1) * (2 ^ d * (q + 1)) := by ring
    have hhalf : 2 ^ (m + 1) = 2 ^ m + 2 ^ m := by ring
    have hstart : 2 ^ m * (2 * r) = 2 ^ (m + 1) * r := by ring
    have hend : 2 ^ m * (2 * r + 1) = 2 ^ (m + 1) * r + 2 ^ m := by ring
    have hbefore := mul_le_or_lt (2 ^ m) (2 ^ (d + 1) * q + 2 ^ d) (2 * r)
    have hbehind := mul_le_or_lt (2 ^ m) (2 ^ (d + 1) * q + 2 ^ d) (2 * r + 1)
    have hblock := mul_le_or_lt (2 ^ (m + 1)) (2 ^ d * (q + 1)) r
    omega

namespace SumTree

section
variable {ω : Type} [Sub ω] [LE ω] [DecidableLE ω]

theorem descend_le (t : SumTree ω) (bits : Nat) {pos : Nat} (target : ω) (h : pos ≤ t.size) :
    t.descend bits pos target ≤ t.size := by
  fun_induction descend t bits pos target with
  | case1 pos => exact h
  | case2 bits pos target sum hnode _ ih =>
    have hin := (Array.getElem?_eq_some_iff.mp hnode).1
    apply ih
    unfold size
    omega
  | case3 bits pos target sum hnode _ ih => exact ih h
  | case4 bits pos target hnode ih => exact ih h

theorem search_le_size (t : SumTree ω) (target : ω) : t.search target ≤ t.size := by
  unfold search
  split
  · exact Nat.zero_le _
  · exact t.descend_le _ target (Nat.zero_le _)

end

/-- The tree has `n` places, and each node is the sum of the weights in its block. -/
structure Sums (t : SumTree ℚ) (n : Nat) (weight : Nat → ℚ) : Prop where
  size : t.nodes.size = n + 1
  node : ∀ j, 0 < j → j ≤ n → t.nodes[j]? = some (∑ i ∈ Ico (j - lowBit j) j, weight i)

variable {t : SumTree ℚ} {n : Nat} {weight : Nat → ℚ}

private theorem getElem?_addFrom (nodes : Array ℚ) {pos : Nat} (delta : ℚ) (hpos : 0 < pos)
    (j : Nat) :
    (addFrom nodes pos delta)[j]? =
      nodes[j]?.map fun node => if j - lowBit j < pos ∧ pos ≤ j then node + delta else node := by
  fun_induction addFrom nodes pos delta with
  | case1 nodes pos h ih =>
    have hup := lowBit_pos hpos
    have hcovers := covers_iff hpos (j := j)
    rw [ih (by omega), Array.getElem?_set]
    by_cases hj : pos = j
    · subst hj
      have hstart : pos - lowBit pos < pos := by omega
      have hbelow : ¬ pos + lowBit pos ≤ pos := by omega
      simp [h.2, hstart, hbelow]
    · rw [if_neg hj]
      congr 1
      funext node
      rw [if_congr hcovers rfl rfl]
      simp [Ne.symm hj]
  | case2 nodes pos h =>
    have hout : nodes.size ≤ pos := by omega
    by_cases hj : j < nodes.size
    · have hbelow : ¬ pos ≤ j := by omega
      simp [hj, hbelow]
    · simp [Nat.not_lt.mp hj]

private theorem size_addFrom (nodes : Array ℚ) (pos : Nat) (delta : ℚ) :
    (addFrom nodes pos delta).size = nodes.size := by
  fun_induction addFrom nodes pos delta with
  | case1 nodes pos h ih => rw [ih, Array.size_set]
  | case2 nodes pos h => rfl

theorem Sums.congr (h : t.Sums n weight) {weight' : Nat → ℚ}
    (hsame : ∀ i < n, weight' i = weight i) : t.Sums n weight' where
  size := h.size
  node j hpos hj := by
    rw [h.node j hpos hj]
    congr 1
    refine sum_congr rfl fun i hi => (hsame i ?_).symm
    have := (mem_Ico.mp hi).2
    omega

private theorem sums_zero (n : Nat) : (zero n : SumTree ℚ).Sums n fun _ => 0 where
  size := by simp [zero]
  node j hpos hj := by
    have hin : j < n + 1 := by omega
    simp [zero, hin]

theorem Sums.add (h : t.Sums n weight) (i : Nat) (delta : ℚ) :
    (t.add i delta).Sums n fun j => weight j + if j = i then delta else 0 where
  size := (size_addFrom _ _ _).trans h.size
  node j hpos hj := by
    unfold SumTree.add
    rw [getElem?_addFrom _ _ (Nat.succ_pos i), h.node j hpos hj, Option.map_some, sum_add_distrib,
      sum_ite_eq']
    have hcovers : (j - lowBit j < i + 1 ∧ i + 1 ≤ j) ↔ i ∈ Ico (j - lowBit j) j := by
      rw [mem_Ico]
      omega
    rw [if_congr hcovers rfl rfl]
    split <;> simp

theorem Sums.foldl_add (h : t.Sums n weight) (weights : List ℚ) (start : Nat) :
    ((weights.zipIdx start).foldl (fun t w => t.add w.2 w.1) t).Sums n fun j =>
      weight j + if start ≤ j then weights[j - start]?.getD 0 else 0 := by
  induction weights generalizing t weight start with
  | nil => exact h.congr fun i _ => by simp
  | cons first weights ih =>
    refine (ih (h.add start first) (start + 1)).congr fun j _ => ?_
    rcases Nat.lt_trichotomy j start with hj | rfl | hj
    · have hout : ¬ start ≤ j := by omega
      have hout' : ¬ start + 1 ≤ j := by omega
      have hne : j ≠ start := by omega
      simp [hout, hout', hne]
    · simp
    · obtain ⟨d, rfl⟩ := Nat.exists_eq_add_of_lt hj
      have hne : start + d + 1 ≠ start := by omega
      have hin : start + 1 ≤ start + d + 1 := by omega
      have hindex : start + d + 1 - start = d + 1 := by omega
      have hindex' : start + d + 1 - (start + 1) = d := by omega
      simp [hne, hin, hindex, hindex', Nat.le_of_lt hj]

theorem sums_ofList (weights : List ℚ) :
    (ofList weights).Sums weights.length fun i => weights[i]?.getD 0 :=
  ((sums_zero weights.length).foldl_add weights 0).congr fun i _ => by simp

/-- The sum of the first `i` weights, as it is read off the nodes. -/
def partialSum (t : SumTree ℚ) (i : Nat) : ℚ :=
  if 0 < i then t.partialSum (i - lowBit i) + t.nodes[i]?.getD 0 else 0
termination_by i
decreasing_by
  have := lowBit_pos ‹0 < i›
  omega

theorem Sums.partialSum_eq (h : t.Sums n weight) {i : Nat} (hi : i ≤ n) :
    t.partialSum i = ∑ j ∈ range i, weight j := by
  fun_induction partialSum t i with
  | case1 i hpos ih =>
    have hup := lowBit_pos hpos
    rw [ih (by omega), h.node i hpos hi, Option.getD_some, sum_range_add_sum_Ico]
    omega
  | case2 i hzero =>
    obtain rfl : i = 0 := by omega
    rfl

theorem Sums.partialSum_mono (h : t.Sums n weight) (hweight : ∀ i, 0 ≤ weight i) {i j : Nat}
    (hij : i ≤ j) (hj : j ≤ n) : t.partialSum i ≤ t.partialSum j := by
  rw [h.partialSum_eq (hij.trans hj), h.partialSum_eq hj]
  exact sum_le_sum_of_subset_of_nonneg (range_mono hij) fun i _ _ => hweight i

theorem Sums.node_eq (h : t.Sums n weight) {bits pos : Nat} (hpos : 2 ^ (bits + 1) ∣ pos)
    (hnext : pos + 2 ^ bits ≤ n) :
    t.nodes[pos + 2 ^ bits]? = some (t.partialSum (pos + 2 ^ bits) - t.partialSum pos) := by
  obtain ⟨q, rfl⟩ := hpos
  have hbit := Nat.two_pow_pos bits
  rw [h.node _ (by omega) hnext, lowBit_two_pow_add, Nat.add_sub_cancel, h.partialSum_eq hnext,
    h.partialSum_eq (by omega), ← sum_range_add_sum_Ico _ (Nat.le_add_right _ _),
    add_sub_cancel_left]

/-- The place is the last whose running sum the target reaches. -/
structure Lands (t : SumTree ℚ) (n : Nat) (target : ℚ) (place : Nat) : Prop where
  le : place ≤ n
  reached : t.partialSum place ≤ target
  beyond : place < n → target < t.partialSum (place + 1)

theorem Sums.descend_lands (h : t.Sums n weight) (bits : Nat) {pos : Nat} {target : ℚ}
    (hpos : 2 ^ bits ∣ pos) (hle : pos ≤ n) (hreached : t.partialSum pos ≤ target)
    (hbeyond : pos + 2 ^ bits ≤ n → target < t.partialSum (pos + 2 ^ bits)) :
    t.Lands n target (t.descend bits pos (target - t.partialSum pos)) := by
  induction bits generalizing pos with
  | zero => exact ⟨hle, hreached, hbeyond⟩
  | succ bits ih =>
    have hdouble : pos + 2 ^ bits + 2 ^ bits = pos + 2 ^ (bits + 1) := by ring
    have hhalf : 2 ^ bits ∣ pos := (pow_dvd_pow 2 (Nat.le_succ bits)).trans hpos
    unfold descend
    rw [Nat.one_shiftLeft]
    by_cases hnext : pos + 2 ^ bits ≤ n
    · rw [h.node_eq hpos hnext]
      dsimp only
      split
      · next hfits =>
        rw [sub_sub_sub_cancel_right]
        refine ih (Nat.dvd_add hhalf (Nat.dvd_refl _)) hnext (sub_le_sub_iff_right _ |>.mp hfits) ?_
        rwa [hdouble]
      · next hmisses =>
        refine ih hhalf hle hreached fun _ => ?_
        exact not_le.mp fun hfits => hmisses (sub_le_sub_right hfits _)
    · have hnone : t.nodes[pos + 2 ^ bits]? = none := by
        apply Array.getElem?_eq_none
        have := h.size
        omega
      rw [hnone]
      exact ih hhalf hle hreached fun hin => absurd hin hnext

theorem Sums.search_lands (h : t.Sums n weight) {target : ℚ} (htarget : 0 ≤ target) :
    t.Lands n target (t.search target) := by
  have hsize : t.size = n := by
    unfold SumTree.size
    have := h.size
    omega
  have hnone : t.partialSum 0 = 0 := h.partialSum_eq (Nat.zero_le n)
  unfold search
  rw [hsize]
  split
  · next hempty => exact ⟨Nat.zero_le n, hnone.trans_le htarget, fun hin => by omega⟩
  · have hlands := h.descend_lands (n.log2 + 1) (Nat.dvd_zero _) (Nat.zero_le n)
      (hnone.trans_le htarget) fun hin => by
        have := Nat.lt_log2_self (n := n)
        omega
    rwa [hnone, sub_zero] at hlands

/-- While the target is below the sum of all weights, the search finds the one place whose share of
the running sum holds it. -/
theorem Sums.search_eq_iff (h : t.Sums n weight) (hweight : ∀ i, 0 ≤ weight i) {target : ℚ}
    (htarget : 0 ≤ target) (hless : target < t.partialSum n) (i : Nat) :
    t.search target = i ↔
      i < n ∧ t.partialSum i ≤ target ∧ target < t.partialSum (i + 1) := by
  have hlands := h.search_lands htarget
  have hin : t.search target < n := by
    refine lt_of_le_of_ne hlands.le fun hend => ?_
    exact absurd hlands.reached (not_le.mpr (hend ▸ hless))
  constructor
  · rintro rfl
    exact ⟨hin, hlands.reached, hlands.beyond hin⟩
  · rintro ⟨hi, hreached, hbeyond⟩
    rcases Nat.lt_trichotomy (t.search target) i with hbefore | hsame | hafter
    · have := h.partialSum_mono hweight (Nat.succ_le_of_lt hbefore) (Nat.le_of_lt hi)
      exact absurd (this.trans hreached) (not_le.mpr (hlands.beyond hin))
    · exact hsame
    · have := h.partialSum_mono hweight (Nat.succ_le_of_lt hafter) (Nat.le_of_lt hin)
      exact absurd (this.trans hlands.reached) (not_le.mpr hbeyond)

end SumTree

end BloodStakes
