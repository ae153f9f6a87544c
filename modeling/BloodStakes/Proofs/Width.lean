import BloodStakes.Table.Basic

/-!
The width of a stake. Blood is reckoned in 64 bits and hands are counted in 32. As long as nothing
overflows on the way to a stake, it is what it would be among all whole numbers.
-/
namespace BloodStakes.Rules

variable {rules : Rules} {handsPlayed : Nat} {bloodPool : Int}

/-- The steps climbed by a hand, none of them before the wager starts climbing. -/
def wagerSteps (rules : Rules) (handsPlayed : Nat) : Nat :=
  if handsPlayed < rules.flatWagerHands then 0
  else min handsPlayed rules.wagerScalingCap + 1 - rules.flatWagerHands

/-- What a hand costs among all whole numbers. -/
def fullWager (rules : Rules) (handsPlayed : Nat) : Int :=
  rules.minWager + rules.wagerSteps handsPlayed * rules.wagerStep

/-- Nothing overflows on the way to a wager: not the count of hands, nor what the hand would cost,
nor all of the pool but one. -/
structure WagerFits (rules : Rules) (handsPlayed : Nat) (bloodPool : Int) : Prop where
  hands : min handsPlayed rules.wagerScalingCap + 1 < UInt32.size
  wager : Amount.Fits (rules.fullWager handsPlayed)
  pool : Amount.Fits (bloodPool - 1)

/-- Neither the wager nor the pot overflows. -/
structure StakeFits (rules : Rules) (handsPlayed : Nat) (bloodPool : Int) : Prop
    extends WagerFits rules handsPlayed bloodPool where
  pot : Amount.Fits (rules.wagerFor handsPlayed bloodPool * 2)

instance : Decidable (rules.WagerFits handsPlayed bloodPool) :=
  decidable_of_iff (_ ∧ _ ∧ _)
    ⟨fun ⟨hhands, hwager, hpool⟩ => ⟨hhands, hwager, hpool⟩, fun h => ⟨h.hands, h.wager, h.pool⟩⟩

instance : Decidable (rules.StakeFits handsPlayed bloodPool) :=
  decidable_of_iff (_ ∧ _) ⟨fun ⟨hwager, hpot⟩ => ⟨hwager, hpot⟩, fun h => ⟨h.toWagerFits, h.pot⟩⟩

theorem reckonedWager_of_fits (hhands : min handsPlayed rules.wagerScalingCap + 1 < UInt32.size)
    (hwager : Amount.Fits (rules.fullWager handsPlayed)) :
    rules.reckonedWager handsPlayed = rules.fullWager handsPlayed := by
  unfold reckonedWager fullWager wagerSteps at *
  split
  · simp
  · next hclimbs =>
    rw [if_neg hclimbs] at hwager
    rw [Nat.mod_eq_of_lt hhands, Amount.wrap_of_fits hwager]

theorem WagerFits.wagerFor_eq (h : rules.WagerFits handsPlayed bloodPool) :
    rules.wagerFor handsPlayed bloodPool =
      min (rules.fullWager handsPlayed) (max (bloodPool - 1) 0) := by
  rw [wagerFor, reckonedWager_of_fits h.hands h.wager, Amount.wrap_of_fits h.pool]

/-- However a stake wraps, it leaves something of a pool that has blood. -/
theorem wagerFor_le (hpool : 0 < bloodPool) :
    rules.wagerFor handsPlayed bloodPool ≤ bloodPool - 1 := by
  have hwrap : Amount.wrap (bloodPool - 1) ≤ bloodPool - 1 := Amount.wrap_le (by omega)
  unfold wagerFor
  omega

theorem wagerSteps_mono {hands later : Nat} (h : hands ≤ later) :
    rules.wagerSteps hands ≤ rules.wagerSteps later := by
  unfold wagerSteps
  split
  · exact Nat.zero_le _
  · rw [if_neg (by omega)]
    omega

theorem fullWager_mono (hstep : 0 ≤ rules.wagerStep) {hands later : Nat} (h : hands ≤ later) :
    rules.fullWager hands ≤ rules.fullWager later := by
  have hsteps : (rules.wagerSteps hands : Int) ≤ rules.wagerSteps later :=
    Int.ofNat_le.mpr (wagerSteps_mono h)
  unfold fullWager
  exact Int.add_le_add_left (Int.mul_le_mul_of_nonneg_right hsteps hstep) _

theorem minWager_le_fullWager (hstep : 0 ≤ rules.wagerStep) (handsPlayed : Nat) :
    rules.minWager ≤ rules.fullWager handsPlayed := by
  unfold fullWager
  exact Int.le_add_of_nonneg_right (Int.mul_nonneg (Int.natCast_nonneg _) hstep)

theorem WagerFits.nonneg (h : rules.WagerFits handsPlayed bloodPool) (hwager : 0 ≤ rules.minWager)
    (hstep : 0 ≤ rules.wagerStep) : 0 ≤ rules.wagerFor handsPlayed bloodPool := by
  have hfull := minWager_le_fullWager hstep handsPlayed
  rw [h.wagerFor_eq]
  omega

theorem WagerFits.le (h : rules.WagerFits handsPlayed bloodPool) :
    rules.wagerFor handsPlayed bloodPool ≤ max (bloodPool - 1) 0 :=
  h.wagerFor_eq ▸ Int.min_le_right _ _

theorem WagerFits.neg (h : rules.WagerFits handsPlayed bloodPool) (hwager : 0 ≤ rules.minWager)
    (hstep : 0 ≤ rules.wagerStep) : Amount.Fits (-rules.wagerFor handsPlayed bloodPool) := by
  have hnonneg := h.nonneg hwager hstep
  have hle : rules.wagerFor handsPlayed bloodPool ≤ rules.fullWager handsPlayed :=
    h.wagerFor_eq ▸ Int.min_le_left _ _
  obtain ⟨-, hgreatest⟩ := h.wager
  unfold Amount.Fits Amount.least Amount.greatest at *
  omega

theorem WagerFits.of_le {later : Nat} {more : Int} (h : rules.WagerFits later more)
    (hwager : 0 ≤ rules.minWager) (hstep : 0 ≤ rules.wagerStep) (hhands : handsPlayed ≤ later)
    (hpool : 0 ≤ bloodPool) (hmore : bloodPool ≤ more) :
    rules.WagerFits handsPlayed bloodPool := by
  have hmin := minWager_le_fullWager hstep handsPlayed
  have hfull := fullWager_mono hstep hhands
  obtain ⟨hlater, ⟨-, hwagers⟩, ⟨-, hpools⟩⟩ := h
  refine ⟨by omega, ⟨?_, by omega⟩, ⟨?_, by omega⟩⟩
  · unfold Amount.least
    omega
  · unfold Amount.least
    omega

end BloodStakes.Rules

namespace BloodStakes

/-- The stake of the next hand overflows nowhere. -/
def Table.StakeFits (rules : Rules) (t : Table) : Prop :=
  ∀ round, t.round? = some round → rules.StakeFits round.handsPlayed t.player.bloodPool

instance (rules : Rules) (t : Table) : Decidable (t.StakeFits rules) :=
  inferInstanceAs (Decidable (∀ round ∈ t.round?, _))

/-- The stake of the next hand, however it came about, can be taken away: it is not the one amount
that is its own opposite. -/
def Table.StakePays (rules : Rules) (t : Table) : Prop :=
  ∀ round, t.round? = some round →
    Amount.Fits (-rules.wagerFor round.handsPlayed t.player.bloodPool)

instance (rules : Rules) (t : Table) : Decidable (t.StakePays rules) :=
  inferInstanceAs (Decidable (∀ round ∈ t.round?, _))

end BloodStakes
