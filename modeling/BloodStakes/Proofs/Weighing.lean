import Mathlib.Algebra.Order.Field.Basic
import Mathlib.Algebra.Order.Field.Rat
import Mathlib.Tactic.NormNum
import BloodStakes.Proofs.PartialSums
import BloodStakes.Proofs.Rack

/-!
Drawing by weight is exact. Over exact numbers the tree of an urn always holds the running sums of
the weights that are left, so a draw takes each item with the share of the total that is its weight.
-/
namespace BloodStakes

open Finset

variable {α σ ω : Type}

/-- What draws ask of chance: a fraction of the total weight, and a place if nothing weighs. -/
structure Source (σ ω : Type) where
  fraction : σ → ω × σ
  choose : σ → (n : Nat) → 0 < n → Fin n × σ

namespace Source

/-- The generator. -/
def generator : Source Rng Float := ⟨Rng.fraction, Rng.choose⟩

/-- The generator with the fractions it stands for: the 53 high bits of a word. -/
def exactGenerator : Source Rng ℚ where
  fraction rng := ((rng.next.1 >>> 11).toNat / 2 ^ 53, rng.next.2)
  choose := Rng.choose

/-- All fractions are fractions of one. -/
structure Fair (source : Source σ ℚ) : Prop where
  nonneg : ∀ s, 0 ≤ (source.fraction s).1
  lt_one : ∀ s, (source.fraction s).1 < 1

theorem exactGenerator_fair : exactGenerator.Fair where
  nonneg rng := div_nonneg (Nat.cast_nonneg _) (by norm_num)
  lt_one rng := by
    have hbits : (rng.next.1 >>> 11).toNat < 2 ^ 53 := by
      have hword := rng.next.1.toNat_lt
      rw [UInt64.toNat_shiftRight, Nat.shiftRight_eq_div_pow]
      exact Nat.div_lt_of_lt_mul hword
    unfold exactGenerator
    rw [div_lt_one (by norm_num)]
    exact_mod_cast hbits

end Source

namespace Urn

section
variable [Add ω] [Sub ω] [Neg ω] [Mul ω] [LT ω] [DecidableLT ω] [LE ω] [DecidableLE ω] [OfNat ω 0]

/-- Draws one item: by weight while there is any, else evenly. -/
def drawFrom (source : Source σ ω) (urn : Urn α ω) (s : σ) (h : 0 < urn.size) :
    (α × Urn α ω) × σ :=
  if 0 < urn.total then
    let (fraction, s) := source.fraction s
    let target := fraction * urn.total
    (urn.remove (urn.locate target) (urn.locate_lt target h), s)
  else
    let (i, s) := source.choose s urn.size h
    (urn.remove i.val i.isLt, s)

/-- Draws up to `count` items, and keeps what is left. -/
def drawManyFrom (source : Source σ ω) (urn : Urn α ω) (s : σ) :
    (count : Nat) → (List α × Urn α ω) × σ
  | 0 => (([], urn), s)
  | count + 1 =>
    if h : 0 < urn.size then
      let ((item, urn), s) := urn.drawFrom source s h
      let ((items, urn), s) := urn.drawManyFrom source s count
      ((item :: items, urn), s)
    else (([], urn), s)

end

private theorem drawMany_eq (urn : Urn α Float) (rng : Rng) (count : Nat) :
    urn.drawMany rng count =
      ((urn.drawManyFrom .generator rng count).1.1, (urn.drawManyFrom .generator rng count).2) := by
  induction count generalizing urn rng with
  | zero => rfl
  | succ count ih =>
    unfold drawMany drawManyFrom
    by_cases h : 0 < urn.size
    · have hdraw : urn.draw rng h = urn.drawFrom .generator rng h := rfl
      simp only [dif_pos h, hdraw, ih]
    · simp only [dif_neg h]

theorem sample_eq {items : List α} {weights : List Float}
    (h : items.length = (weights.map usableWeight).length) (count : Nat) (rng : Rng) :
    let urn := ofList items (weights.map usableWeight) h
    sample items weights count rng = .ok ((urn.drawManyFrom .generator rng count).1.1,
      (urn.drawManyFrom .generator rng count).2) := by
  have hlength : items.length = weights.length := by simpa using h
  unfold sample
  rw [dif_pos hlength]
  exact congrArg Except.ok (drawMany_eq _ rng count)

/-- The weight at a place; behind the items that are left there is none. -/
def weightAt (urn : Urn α ℚ) (i : Nat) : ℚ := urn.weights[i]?.getD 0

theorem weightAt_of_le (urn : Urn α ℚ) {i : Nat} (h : urn.size ≤ i) : urn.weightAt i = 0 := by
  have hout : urn.weights.size ≤ i := urn.size_weights ▸ h
  simp [weightAt, hout]

/-- The tree has `n` places and sums up the weights that are left, none of which is negative. -/
structure Exact (urn : Urn α ℚ) (n : Nat) : Prop where
  size_le : urn.size ≤ n
  nonneg : ∀ i, 0 ≤ urn.weightAt i
  sums : urn.tree.Sums n urn.weightAt
  total : urn.total = ∑ i ∈ range urn.size, urn.weightAt i

variable {urn : Urn α ℚ} {n : Nat}

private theorem foldl_add_eq_sum (weights : List ℚ) (start : ℚ) :
    weights.foldl (· + ·) start = start + ∑ i ∈ range weights.length, weights[i]?.getD 0 := by
  induction weights generalizing start with
  | nil => simp
  | cons weight weights ih =>
    rw [List.foldl_cons, ih, List.length_cons, sum_range_succ']
    simp only [List.getElem?_cons_zero, List.getElem?_cons_succ, Option.getD_some]
    ring

private theorem exact_ofList {items : List α} {weights : List ℚ} (h : items.length = weights.length)
    (hweights : ∀ weight ∈ weights, 0 ≤ weight) :
    (ofList items weights h).Exact items.length := by
  have hweight (i : Nat) : (ofList items weights h).weightAt i = weights[i]?.getD 0 := by
    simp [weightAt, ofList]
  have hsize : (ofList items weights h).size = weights.length := by
    simp [ofList, size, h]
  refine ⟨(hsize.trans h.symm).le, fun i => ?_, ?_, ?_⟩
  · rw [hweight]
    cases hi : weights[i]? with
    | none => exact le_refl _
    | some weight => exact hweights weight (List.mem_of_getElem? hi)
  · rw [h]
    exact (SumTree.sums_ofList weights).congr fun i _ => hweight i
  · rw [hsize, sum_congr rfl fun i _ => hweight i]
    exact (foldl_add_eq_sum weights 0).trans (zero_add _)

theorem weightAt_remove (urn : Urn α ℚ) {i : Nat} (h : i < urn.size) (j : Nat) :
    (urn.remove i h).2.weightAt j =
      if j = urn.size - 1 then 0 else if j = i then urn.weightAt (urn.size - 1)
      else urn.weightAt j := by
  have hsize : urn.weights.size = urn.size := urn.size_weights
  have hlast : urn.size - 1 < urn.weights.size := by omega
  rcases Nat.lt_or_ge j (urn.size - 1) with hj | hj
  · have hin : j < urn.weights.size := by omega
    have hswap : (urn.remove i h).2.weightAt j =
        ((urn.weights.swap i (urn.size - 1))[j]?).getD 0 := by
      unfold weightAt remove
      rw [Array.getElem?_pop, Array.size_swap, if_pos (hsize ▸ hj)]
    rw [hswap, Array.getElem?_swap, if_neg (Nat.ne_of_lt hj), if_neg (Nat.ne_of_gt hj)]
    by_cases hi : i = j
    · simp [hi, weightAt, hlast]
    · simp [hi, Ne.symm hi, weightAt]
  · rw [weightAt_of_le _ (by rw [size_remove]; exact hj)]
    split
    · rfl
    · rw [if_neg (by omega), weightAt_of_le _ (by omega)]

theorem weightAt_remove_eq_add (urn : Urn α ℚ) {i : Nat} (h : i < urn.size) (j : Nat) :
    (urn.remove i h).2.weightAt j = urn.weightAt j +
      (if j = i then urn.weightAt (urn.size - 1) - urn.weightAt i else 0) +
      if j = urn.size - 1 then -urn.weightAt (urn.size - 1) else 0 := by
  rw [weightAt_remove]
  by_cases hlast : j = urn.size - 1
  · subst hlast
    by_cases hi : urn.size - 1 = i
    · simp [← hi]
    · simp [hi]
  · by_cases hi : j = i
    · subst hi
      simp [hlast]
    · simp [hlast, hi]

theorem Exact.remove (hurn : urn.Exact n) {i : Nat} (h : i < urn.size) :
    (urn.remove i h).2.Exact n := by
  have hsize : urn.weights.size = urn.size := urn.size_weights
  have hi : i < urn.weights.size := hsize ▸ h
  have hlast : urn.size - 1 < urn.weights.size := by omega
  have hremoved : urn.weights[i] = urn.weightAt i := by simp [weightAt, hi]
  have hmoved : urn.weights[urn.size - 1] = urn.weightAt (urn.size - 1) := by
    simp [weightAt, hlast]
  have hnonneg (j : Nat) : 0 ≤ (urn.remove i h).2.weightAt j := by
    rw [weightAt_remove]
    split
    · exact le_refl _
    · split
      · exact hurn.nonneg _
      · exact hurn.nonneg _
  have htotal : urn.total - urn.weightAt i =
      ∑ j ∈ range (urn.size - 1), (urn.remove i h).2.weightAt j := by
    have hend : (urn.remove i h).2.weightAt (urn.size - 1) = 0 := by
      rw [weightAt_remove, if_pos rfl]
    have hmem : i ∈ range (urn.size - 1 + 1) := mem_range.mpr (by omega)
    rw [← add_zero (∑ j ∈ range (urn.size - 1), _), ← hend, ← sum_range_succ,
      sum_congr rfl fun j _ => weightAt_remove_eq_add urn h j, sum_add_distrib, sum_add_distrib,
      sum_ite_eq', sum_ite_eq', if_pos hmem, if_pos (self_mem_range_succ _),
      Nat.sub_add_cancel (Nat.one_le_of_lt h), ← hurn.total]
    ring
  refine ⟨?_, hnonneg, ?_, ?_⟩
  · rw [size_remove]
    exact (Nat.sub_le _ _).trans hurn.size_le
  · have htree : (urn.remove i h).2.tree =
        (if i = urn.size - 1 then urn.tree
          else urn.tree.add i (urn.weightAt (urn.size - 1) - urn.weightAt i)).add (urn.size - 1)
            (-urn.weightAt (urn.size - 1)) := by
      rw [← hremoved, ← hmoved]
      rfl
    rw [htree]
    split
    · next hsame =>
      refine (hurn.sums.add _ _).congr fun j _ => ?_
      rw [weightAt_remove_eq_add, hsame]
      simp
    · exact ((hurn.sums.add _ _).add _ _).congr fun j _ => weightAt_remove_eq_add urn h j
  · have hleft : (urn.remove i h).2.total =
        if urn.total - urn.weightAt i < 0 then 0 else urn.total - urn.weightAt i := by
      rw [← hremoved]
      rfl
    have hpos : 0 ≤ urn.total - urn.weightAt i := by
      rw [htotal]
      exact sum_nonneg fun j _ => hnonneg j
    rw [hleft, if_neg (not_lt.mpr hpos), htotal, size_remove]

theorem Exact.partialSum_of_le (hurn : urn.Exact n) {i : Nat} (h : urn.size ≤ i) (hi : i ≤ n) :
    urn.tree.partialSum i = urn.total := by
  rw [hurn.sums.partialSum_eq hi, hurn.total]
  refine (sum_subset (range_mono h) fun j _ hj => ?_).symm
  exact urn.weightAt_of_le (Nat.not_lt.mp fun hin => hj (mem_range.mpr hin))

/-- A target below the total lies in the share of exactly one item that is left. -/
theorem Exact.search_eq_iff (hurn : urn.Exact n) {target : ℚ} (htarget : 0 ≤ target)
    (hless : target < urn.total) (i : Nat) :
    urn.tree.search target = i ↔
      i < urn.size ∧ urn.tree.partialSum i ≤ target ∧ target < urn.tree.partialSum (i + 1) := by
  have hall : target < urn.tree.partialSum n := by
    rwa [hurn.partialSum_of_le hurn.size_le (le_refl n)]
  rw [hurn.sums.search_eq_iff hurn.nonneg htarget hall]
  constructor
  · rintro ⟨hi, hreached, hbeyond⟩
    refine ⟨Nat.lt_of_not_le fun hout => ?_, hreached, hbeyond⟩
    rw [hurn.partialSum_of_le hout (Nat.le_of_lt hi)] at hreached
    exact absurd hless (not_lt.mpr hreached)
  · rintro ⟨hi, hshare⟩
    exact ⟨Nat.lt_of_lt_of_le hi hurn.size_le, hshare⟩

theorem Exact.locate_eq (hurn : urn.Exact n) {target : ℚ} (htarget : 0 ≤ target)
    (hless : target < urn.total) : urn.locate target = urn.tree.search target := by
  obtain ⟨hin, -⟩ := (hurn.search_eq_iff htarget hless _).mp rfl
  exact Nat.min_eq_left (Nat.le_sub_one_of_lt hin)

theorem Exact.weightAt_search_pos (hurn : urn.Exact n) {target : ℚ} (htarget : 0 ≤ target)
    (hless : target < urn.total) : 0 < urn.weightAt (urn.tree.search target) := by
  obtain ⟨hin, hreached, hbeyond⟩ := (hurn.search_eq_iff htarget hless _).mp rfl
  have hle := Nat.lt_of_lt_of_le hin hurn.size_le
  have hshare := hreached.trans_lt hbeyond
  rw [hurn.sums.partialSum_eq (Nat.le_of_lt hle), hurn.sums.partialSum_eq hle,
    sum_range_succ] at hshare
  exact lt_add_iff_pos_right _ |>.mp hshare

theorem Exact.weightAt_eq_zero (hurn : urn.Exact n) (htotal : ¬ 0 < urn.total) (i : Nat) :
    urn.weightAt i = 0 := by
  by_cases hi : i < urn.size
  · rw [hurn.total] at htotal
    have hle := single_le_sum (fun j _ => hurn.nonneg j) (mem_range.mpr hi)
    exact le_antisymm (hle.trans (not_lt.mp htotal)) (hurn.nonneg i)
  · exact urn.weightAt_of_le (Nat.not_lt.mp hi)

theorem Exact.drawFrom_eq (hurn : urn.Exact n) {source : Source σ ℚ} (hsource : source.Fair)
    (s : σ) (h : 0 < urn.size) :
    ∃ (i : Nat) (hi : i < urn.size), (urn.drawFrom source s h).1 = urn.remove i hi ∧
      (0 < urn.total → i = urn.tree.search ((source.fraction s).1 * urn.total) ∧
        0 < urn.weightAt i) ∧ (urn.weightAt i = 0 → ∀ j, urn.weightAt j = 0) := by
  unfold drawFrom
  split
  · next htotal =>
    have htarget := mul_nonneg (hsource.nonneg s) htotal.le
    have hless := mul_lt_of_lt_one_left htotal (hsource.lt_one s)
    have hweight := hurn.weightAt_search_pos htarget hless
    have hfound := hurn.locate_eq htarget hless
    rw [← hfound] at hweight
    exact ⟨_, urn.locate_lt _ h, rfl, fun _ => ⟨hfound, hweight⟩,
      fun hzero => absurd hzero hweight.ne'⟩
  · next htotal =>
    exact ⟨_, (source.choose s urn.size h).1.isLt, rfl, fun hpos => absurd hpos htotal,
      fun _ => hurn.weightAt_eq_zero htotal⟩

/-- The items that are left, each with its weight. -/
def shares (urn : Urn α ω) : List (α × ω) := (urn.items.zip urn.weights).toList

theorem length_shares (urn : Urn α ω) : urn.shares.length = urn.size := by
  simp [shares, size, urn.size_weights]

private theorem exists_weightAt_eq {p : α × ℚ} (h : p ∈ urn.shares) :
    ∃ i, urn.weightAt i = p.2 := by
  obtain ⟨i, hi, rfl⟩ := List.mem_iff_getElem.mp h
  have hsize : urn.weights.size = urn.size := urn.size_weights
  have hin : i < urn.weights.size := by rwa [hsize, ← urn.length_shares]
  exact ⟨i, by simp [weightAt, shares, hin]⟩

/-- The urn whose items carry their weights. -/
def weighed (urn : Urn α ω) : Urn (α × ω) ω :=
  { urn with items := urn.items.zip urn.weights, size_weights := by simp [urn.size_weights] }

private theorem remove_weighed (urn : Urn α ℚ) {i : Nat} (h : i < urn.size)
    (h' : i < urn.weighed.size) :
    (urn.weighed.remove i h').1 = ((urn.remove i h).1, urn.weightAt i) ∧
      (urn.weighed.remove i h').2.items.toList = (urn.remove i h).2.shares := by
  have hsize : urn.weights.size = urn.size := urn.size_weights
  have hi : i < urn.weights.size := hsize ▸ h
  refine ⟨by simp [remove, weighed, weightAt, hi], congrArg Array.toList ?_⟩
  ext k hk hk' : 1
  · simp [remove, weighed, hsize]
  · simp only [remove, weighed, Array.getElem_zip, Array.getElem_pop, Array.getElem_swap,
      Array.size_zip, hsize, Nat.min_self]
    split
    · rfl
    · split <;> rfl

theorem remove_shares_perm (urn : Urn α ℚ) {i : Nat} (h : i < urn.size) :
    (((urn.remove i h).1, urn.weightAt i) :: (urn.remove i h).2.shares).Perm urn.shares := by
  have hin : i < urn.weighed.size := by simpa [weighed, size, urn.size_weights] using h
  obtain ⟨hdrawn, hleft⟩ := urn.remove_weighed h hin
  rw [← hdrawn, ← hleft]
  exact urn.weighed.remove_perm i hin

/-- What draws take from an urn, each item with its weight, and what they leave. Nothing without a
weight is drawn while something with a weight is left. -/
structure Drawn (urn : Urn α ℚ) (n count : Nat) (drawn : List (α × ℚ)) (left : Urn α ℚ) :
    Prop where
  exact : left.Exact n
  length : drawn.length = min count urn.size
  perm : (drawn ++ left.shares).Perm urn.shares
  weighty : ∀ before p after, drawn = before ++ p :: after → p.2 = 0 →
    ∀ q ∈ after ++ left.shares, q.2 = 0

theorem Exact.drawn_nil (hurn : urn.Exact n) {count : Nat} (h : count = 0 ∨ urn.size = 0) :
    urn.Drawn n count [] urn where
  exact := hurn
  length := by
    rw [List.length_nil]
    omega
  perm := .refl _
  weighty before p after h := by simp at h

theorem Drawn.cons {i count : Nat} {h : i < urn.size} {drawn : List (α × ℚ)} {left : Urn α ℚ}
    (hdrawn : (urn.remove i h).2.Drawn n count drawn left)
    (hweight : urn.weightAt i = 0 → ∀ j, urn.weightAt j = 0) :
    urn.Drawn n (count + 1) (((urn.remove i h).1, urn.weightAt i) :: drawn) left where
  exact := hdrawn.exact
  length := by
    rw [List.length_cons, hdrawn.length, size_remove]
    omega
  perm := (hdrawn.perm.cons _).trans (urn.remove_shares_perm h)
  weighty before p after hsplit hzero q hq := by
    cases before with
    | nil =>
      obtain ⟨rfl, rfl⟩ := List.cons.inj hsplit
      have hleft := hdrawn.perm.mem_iff.mp hq
      have hin := (urn.remove_shares_perm h).mem_iff.mp (List.mem_cons_of_mem _ hleft)
      obtain ⟨j, hj⟩ := exists_weightAt_eq hin
      exact hj.symm.trans (hweight hzero j)
    | cons first before =>
      exact hdrawn.weighty before p after (List.cons.inj hsplit).2 hzero q hq

theorem Exact.drawManyFrom_drawn (hurn : urn.Exact n) {source : Source σ ℚ}
    (hsource : source.Fair) (s : σ) (count : Nat) :
    ∃ drawn, (urn.drawManyFrom source s count).1.1 = drawn.map Prod.fst ∧
      urn.Drawn n count drawn (urn.drawManyFrom source s count).1.2 := by
  induction count generalizing urn s with
  | zero => exact ⟨[], rfl, hurn.drawn_nil (.inl rfl)⟩
  | succ count ih =>
    unfold drawManyFrom
    by_cases h : 0 < urn.size
    · obtain ⟨i, hi, hremove, -, hweight⟩ := hurn.drawFrom_eq hsource s h
      obtain ⟨drawn, hitems, hdrawn⟩ := ih (hurn.remove hi) (urn.drawFrom source s h).2
      have hmore := hdrawn.cons hweight
      rw [← hremove] at hitems hmore
      rw [dif_pos h]
      exact ⟨((urn.drawFrom source s h).1.1, urn.weightAt i) :: drawn, congrArg (_ :: ·) hitems,
        hmore⟩
    · rw [dif_neg h]
      exact ⟨[], rfl, hurn.drawn_nil (.inr (by omega))⟩

/-- Draws are exact. After any draws the sums in the tree are those of the weights that are left,
a target below the total is found in the share of one item, and it is the item that a draw takes.
What is drawn has a weight while there is any, and in the end every item is drawn. No loop of the
tree runs on or leaves its places, and over binary fractions the same draws are those of `sample`. -/
theorem draws_exact (items : List α) (weights : List ℚ) (h : items.length = weights.length)
    {source : Source σ ℚ} (hsource : source.Fair) (s : σ) (count : Nat) :
    (∃ (drawn : List (α × ℚ)) (left : Urn α ℚ),
      ((ofList items (weights.map (max · 0)) (by simpa using h)).drawManyFrom source s count).1 =
        (drawn.map Prod.fst, left) ∧
      drawn.length = min count items.length ∧
      (drawn ++ left.shares).Perm (items.zip (weights.map (max · 0))) ∧
      (∀ before p after, drawn = before ++ p :: after → p.2 = 0 →
        ∀ q ∈ after ++ left.shares, q.2 = 0) ∧
      (∀ i ≤ items.length, left.tree.partialSum i = ∑ j ∈ range i, left.weightAt j) ∧
      (∀ i, left.size ≤ i → left.weightAt i = 0) ∧
      left.total = ∑ j ∈ range left.size, left.weightAt j ∧
      (∀ target, 0 ≤ target → target < left.total →
        left.locate target = left.tree.search target ∧
        ∀ i, left.tree.search target = i ↔ i < left.size ∧
          left.tree.partialSum i ≤ target ∧ target < left.tree.partialSum (i + 1)) ∧
      (∀ s' (hleft : 0 < left.size), ∃ (i : Nat) (hi : i < left.size),
        (left.drawFrom source s' hleft).1 = left.remove i hi ∧
        (0 < left.total → i = left.tree.search ((source.fraction s').1 * left.total) ∧
          0 < left.weightAt i) ∧
        (left.weightAt i = 0 → ∀ j, left.weightAt j = 0))) ∧
    (SumTree.ofList? (weights.map (max · 0)) = some (.ofList (weights.map (max · 0))) ∧
      ∀ tree : SumTree ℚ, (∀ i delta, tree.add? i delta = some (tree.add i delta)) ∧
        ∀ target, tree.search? target = some (tree.search target) ∧
          tree.search target ≤ tree.size) ∧
    ∀ (binary : List Float) (hbinary : items.length = (binary.map usableWeight).length) rng,
      let urn := ofList items (binary.map usableWeight) hbinary
      sample items binary count rng = .ok ((urn.drawManyFrom .generator rng count).1.1,
        (urn.drawManyFrom .generator rng count).2) := by
  refine ⟨?_, ⟨SumTree.ofList?_eq_some _, fun tree => ⟨tree.add?_eq_some, fun target =>
    ⟨tree.search?_eq_some target, tree.search_le_size target⟩⟩⟩,
    fun _ hbinary rng => sample_eq hbinary count rng⟩
  have hlength : items.length = (weights.map (max · 0)).length := by simpa using h
  have hnonneg : ∀ weight ∈ weights.map (max · 0), 0 ≤ weight := by
    intro weight hmem
    obtain ⟨_, -, rfl⟩ := List.mem_map.mp hmem
    exact le_max_right _ _
  have hurn := exact_ofList hlength hnonneg
  obtain ⟨drawn, hitems, hdrawn⟩ := hurn.drawManyFrom_drawn hsource s count
  have hleft := hdrawn.exact
  refine ⟨drawn, _, Prod.ext hitems rfl, ?_, ?_, hdrawn.weighty,
    fun i hi => hleft.sums.partialSum_eq hi, fun i hi => weightAt_of_le _ hi, hleft.total,
    fun target htarget hless => ⟨hleft.locate_eq htarget hless, hleft.search_eq_iff htarget hless⟩,
    fun s' hpos => hleft.drawFrom_eq hsource s' hpos⟩
  · simpa [ofList, size] using hdrawn.length
  · simpa [shares, ofList] using hdrawn.perm

/-- Of three items only the second weighs anything, so it is drawn first. -/
theorem draws_exact_oneWeighs : Source.exactGenerator.Fair ∧
    ∃ (drawn : List (Char × ℚ)) (left : Urn Char ℚ),
      ((ofList ['a', 'b', 'c'] ([(0 : ℚ), 5, -1].map (max · 0)) (by decide)).drawManyFrom
        .exactGenerator (.ofSeed 7) 2).1 = (drawn.map Prod.fst, left) ∧
      drawn.length = 2 ∧ (drawn.map Prod.fst).head? = some 'b' ∧ left.total = 0 ∧
      (drawn ++ left.shares).Perm (['a', 'b', 'c'].zip ([0, 5, -1].map (max · 0))) := by
  obtain ⟨⟨drawn, left, hrun, hlength, hperm, -⟩, -⟩ :=
    draws_exact ['a', 'b', 'c'] [0, 5, -1] rfl Source.exactGenerator_fair (.ofSeed 7) 2
  have hfirst : (drawn.map Prod.fst).head? = some 'b' :=
    (congrArg (·.1.head?) hrun).symm.trans (by decide +kernel)
  have hnothing : left.total = 0 := (congrArg (·.2.total) hrun).symm.trans (by decide +kernel)
  exact ⟨Source.exactGenerator_fair, drawn, left, hrun, hlength, hfirst, hnothing, hperm⟩

end Urn

end BloodStakes
