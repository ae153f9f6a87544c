import BloodStakes.Proofs.Stakes
import BloodStakes.Proofs.Tutorial

/-!
The stake of a hand. It climbs with the hands played and with the pool, and it always leaves the
player some blood: a hand costs the round only where there is nothing to stake.
-/
namespace BloodStakes

namespace Rules

variable {rules : Rules}

theorem wrap_pool {bloodPool : Int} (hpool : 0 ≤ bloodPool)
    (hamount : bloodPool ≤ Amount.greatest) :
    Amount.wrap (bloodPool - 1) = bloodPool - 1 := by
  apply Amount.wrap_of_fits
  unfold Amount.Fits Amount.least
  omega

theorem WagerFits.eq_zero_iff {handsPlayed : Nat} {bloodPool : Int}
    (h : rules.WagerFits handsPlayed bloodPool) (hwager : 1 ≤ rules.minWager)
    (hstep : 0 ≤ rules.wagerStep) : rules.wagerFor handsPlayed bloodPool = 0 ↔ bloodPool ≤ 1 := by
  have hfull := minWager_le_fullWager hstep handsPlayed
  rw [h.wagerFor_eq]
  omega

theorem wagerFor_le_of_pool_le (rules : Rules) (handsPlayed : Nat) {pool more : Int}
    (hpool : 0 ≤ pool) (hmore : pool ≤ more) (hamount : more ≤ Amount.greatest) :
    rules.wagerFor handsPlayed pool ≤ rules.wagerFor handsPlayed more := by
  unfold wagerFor
  rw [wrap_pool hpool (Int.le_trans hmore hamount), wrap_pool (Int.le_trans hpool hmore) hamount]
  omega

theorem WagerFits.wagerFor_le_later {hands later : Nat} {pool : Int}
    (h : rules.WagerFits later pool) (hwager : 0 ≤ rules.minWager) (hstep : 0 ≤ rules.wagerStep)
    (hhands : hands ≤ later) (hpool : 0 ≤ pool) :
    rules.wagerFor hands pool ≤ rules.wagerFor later pool := by
  have hfull := fullWager_mono hstep hhands
  rw [(h.of_le hwager hstep hhands hpool (Int.le_refl pool)).wagerFor_eq, h.wagerFor_eq]
  omega

theorem wagerFor_flat {handsPlayed : Nat} {bloodPool : Int}
    (h : handsPlayed < rules.flatWagerHands) (hpool : 1 ≤ bloodPool)
    (hamount : bloodPool ≤ Amount.greatest) :
    rules.wagerFor handsPlayed bloodPool = min rules.minWager (bloodPool - 1) := by
  rw [wagerFor, wrap_pool (by omega) hamount, reckonedWager, if_pos h,
    Int.max_eq_left (Int.sub_nonneg.mpr hpool)]

theorem wagerFor_capped {hands later : Nat}
    (hhands : max rules.flatWagerHands rules.wagerScalingCap ≤ hands) (hlater : hands ≤ later)
    (bloodPool : Int) : rules.wagerFor later bloodPool = rules.wagerFor hands bloodPool := by
  have hcapped (hands : Nat) (hhands : max rules.flatWagerHands rules.wagerScalingCap ≤ hands) :
      ¬ hands < rules.flatWagerHands ∧ min hands rules.wagerScalingCap = rules.wagerScalingCap := by
    omega
  obtain ⟨hclimbs, hcap⟩ := hcapped hands hhands
  obtain ⟨hclimbs', hcap'⟩ := hcapped later (Nat.le_trans hhands hlater)
  have hsame : rules.reckonedWager later = rules.reckonedWager hands := by
    unfold reckonedWager
    rw [if_neg hclimbs, if_neg hclimbs', hcap, hcap']
  rw [wagerFor, wagerFor, hsame]

end Rules

namespace Session

variable {s : Session} {round : Round}

/-- The session with a new hand opened and its stakes paid, the daimon's first. -/
def staked (s : Session) (round : Round) (stake : Int) : Session :=
  (s.openHand round stake).payStakes stake

/-- The session after a forfeit: all blood is gone, and with it the round and the game, and a hand
without cards and without a pot has been lost. -/
def forfeited (s : Session) (round : Round) : Session :=
  { s with
    table := {
      player := { s.table.player with bloodPool := 0, tutorialFinished := true }
      game? := s.table.game?.map fun game => game.markLost.recordLoss
      round? := some { round with handsPlayed := round.handsPlayed + 1, status := .lost }
      hand? := some { pot := 0, status := .lost } }
    touched := { player := true, game := true, round := true, hand := true }
    events := s.events ++
      Ending.events ⟨round.number, .lost, s.table.game?.map Game.roundsPlayed⟩ ++
      [.handResolved .lost 0 0 0] }

private theorem changePlayerPool_all (hround : s.table.round? = some round)
    (hopen : round.isInProgress = true) :
    s.changePlayerPool (-s.table.player.bloodPool) =
      (s.putPlayer { s.table.player with bloodPool := 0 }).endRound round .lost := by
  have hempty : clampedSum s.table.player.bloodPool (-s.table.player.bloodPool) s.ceiling = 0 := by
    unfold clampedSum
    omega
  have hover : round.isTerminal = false := by simp [Round.isTerminal, hopen]
  simp only [changePlayerPool, settleRound, putPlayer_table, hempty, hround, hover,
    Bool.false_eq_true, Int.le_refl, ↓reduceIte]

theorem settleRound_not_lost (hround : s.table.round? = some round)
    (hlost : round.status ≠ .lost) (hpool : 0 < s.table.player.bloodPool) :
    s.settleRound.table.player.bloodPool = s.table.player.bloodPool ∧
      ∃ status, status ≠ .lost ∧ s.settleRound.table.round? = some { round with status } := by
  unfold settleRound
  rw [hround]
  dsimp only
  split
  · exact ⟨rfl, round.status, hlost, hround⟩
  · rw [if_neg (Int.not_le.mpr hpool)]
    split
    · rw [endRound_table]
      exact ⟨rfl, .won, by decide, rfl⟩
    · exact ⟨rfl, round.status, hlost, hround⟩

private theorem staked_spares {stake : Int} (hopen : round.isInProgress = true)
    (hstake : 0 ≤ stake) (hneg : Amount.Fits (-stake)) (hless : stake < s.table.player.bloodPool)
    (hceiling : s.table.player.bloodPool ≤ round.ceiling) :
    (s.staked round stake).table.player.bloodPool = s.table.player.bloodPool - stake ∧
      (s.staked round stake).table.round?.map Round.status ≠ some .lost := by
  have hlost : round.status ≠ .lost := by
    intro hlost
    simp [Round.isInProgress, hlost] at hopen
  obtain ⟨hpool, status, hstatus, hround⟩ :=
    settleRound_not_lost (s := (s.openHand round stake).putRound
      { round with
        handsPlayed := round.handsPlayed + 1
        daimonPool := clampedSum round.daimonPool (-stake) round.daimonMaximum })
      rfl hlost (show 0 < s.table.player.bloodPool by omega)
  set after := (s.openHand round stake).changeDaimonPool (-stake) with hafter
  replace hpool : after.table.player.bloodPool = s.table.player.bloodPool := hpool
  have hsum : clampedSum after.table.player.bloodPool (-stake) after.ceiling =
      s.table.player.bloodPool - stake := by
    rw [hpool, after.ceiling_of_round hround]
    unfold clampedSum
    dsimp only
    omega
  have hspared := settleRound_not_lost (s := after.putPlayer
    { after.table.player with
      bloodPool := clampedSum after.table.player.bloodPool (-stake) after.ceiling }) hround hstatus
    (show 0 < clampedSum after.table.player.bloodPool (-stake) after.ceiling by omega)
  obtain ⟨hleft, status', hstatus', hround'⟩ := hspared
  have hstaked : s.staked round stake = (after.putPlayer { after.table.player with
        bloodPool := clampedSum after.table.player.bloodPool (-stake) after.ceiling
      }).settleRound := by
    rw [staked, payStakes, Amount.wrap_of_fits hneg]
    rfl
  rw [hstaked]
  exact ⟨hleft.trans hsum, by simpa [hround'] using hstatus'⟩

end Session

namespace Play

open Session

variable {house : House} {s s' : Session} {round : Round}

theorem startHand_run (house : House) (hround : s.table.round? = some round)
    (hopen : round.isInProgress = true) (hidle : s.handInProgress = false) {stake : Int}
    (hstake : house.rules.wagerFor round.handsPlayed s.table.player.bloodPool = stake) :
    (startHand house).run s =
      if stake = 0 then
        closeByRound.run
          ((s.openHand round stake).changePlayerPool (-s.table.player.bloodPool))
      else (unlessOver (dealHand house)).run (s.staked round stake) := by
  have hover : round.isTerminal = false := by simp [Round.isTerminal, hopen]
  simp only [startHand, wager, run_bind, run_get, run_modify, run_refuseIf, run_round, run_pure,
    hround, hover, hidle, hstake, Bool.false_eq_true, ↓reduceIte]
  split <;> rfl

private theorem startHand_busy (hround : s.table.round? = some round)
    (hopen : round.isInProgress = true)
    (hbusy : s.handInProgress = true) :
    (startHand house).run s = .error .handInProgress s := by
  have hover : round.isTerminal = false := by simp [Round.isTerminal, hopen]
  simp only [startHand, run_bind, run_get, run_refuseIf, hround, hover, hbusy, Bool.false_eq_true,
    ↓reduceIte]

private theorem forfeit_run (s : Session) (hopen : round.isInProgress = true) :
    closeByRound.run ((s.openHand round 0).changePlayerPool (-s.table.player.bloodPool)) =
      .ok .lost (s.forfeited round) := by
  have hlost := changePlayerPool_all (s := s.openHand round 0) rfl
    (by simpa [Round.isInProgress] using hopen)
  rw [show s.table.player.bloodPool = (s.openHand round 0).table.player.bloodPool from rfl, hlost]
  simp only [closeByRound, finishHand, run_bind, run_get, run_hand, run_ranks, run_modify, run_pure,
    endRound_table, putPlayer_table]
  cases hgame : s.table.game? <;> cases hfinished : s.table.player.tutorialFinished <;>
    simp [endRound, loseGame, finishTutorial, closeHand, forfeited, openHand, putRound, putHand,
      putPlayer, putGame, emit, Ending.events, Game.record, Hand.cards, hgame, hfinished, ranksOf,
      Score.total]

private theorem dealHand_announces {status : HandStatus}
    (h : (dealHand house).run s = .ok status s') :
    ∃ more, s'.events = s.events ++ more ∧
      ∃ pot playerCards daimonCards, Event.handDealt pot playerCards daimonCards ∈ more := by
  simp only [dealHand, bind_eq_ok, hand_eq_ok, modify_eq_ok, and_assoc, exists_and_left,
    exists_eq_left, exists_const] at h
  obtain ⟨cards, t, hplayer, more, u, hdaimon, dealt, hdealt, h⟩ := h
  set announced := u.emit (.handDealt dealt.pot dealt.playerCards dealt.daimonCards) with hannounced
  have hdeals : s.Deeds house u :=
    ((deal_leads _ _ _).deeds hplayer).trans ((deal_leads _ _ _).deeds hdaimon)
  have hrest : announced.Deeds house s' := (announced.fireTable_flows _ _).deeds.trans
    ((unlessOver_leads (dealt_leads house)).deeds h)
  obtain ⟨before, hbefore, -⟩ := hdeals.tells.events
  obtain ⟨after, hafter, -⟩ := hrest.tells.events
  refine ⟨before ++ [.handDealt dealt.pot dealt.playerCards dealt.daimonCards] ++ after, ?_,
    dealt.pot, dealt.playerCards, dealt.daimonCards, by simp⟩
  have hdealt : announced.events =
      u.events ++ [.handDealt dealt.pot dealt.playerCards dealt.daimonCards] := rfl
  rw [hafter, hdealt, hbefore]
  simp only [List.append_assoc]

private theorem staked_ne_forfeited (house : House) (hround : s.table.round? = some round)
    (hopen : round.isInProgress = true) (hidle : s.handInProgress = false) {stake : Int}
    (hspared : (s.staked round stake).table.round?.map Round.status ≠ some .lost) :
    (unlessOver (dealHand house)).run (s.staked round stake) ≠ .ok .lost (s.forfeited round) := by
  intro h
  simp only [unlessOver, bind_eq_ok, get_eq_ok, and_assoc, exists_and_left, exists_eq_left] at h
  split at h
  · next hover =>
    have hclosed : Deeds house (s.staked round stake) (s.forfeited round) :=
      closeByRound_leads.deeds h
    obtain ⟨ended, hended, hterminal⟩ := Option.any_eq_true _ _ |>.mp hover
    obtain ⟨last, hlast, -, hstatus⟩ := hclosed.tells.final hended hterminal
    cases hlast
    simp [hended, ← hstatus] at hspared
  · obtain ⟨more, hmore, _, _, _, hdealt⟩ := dealHand_announces h
    have hstaked : s.Deeds house (s.staked round stake) :=
      .head (.openHand hround hopen hidle stake)
        ((s.openHand round stake).payStakes_bleeds stake).deeds
    obtain ⟨before, hbefore, -⟩ := hstaked.tells.events
    rw [hbefore] at hmore
    simp only [forfeited, List.append_assoc, List.append_cancel_left_eq] at hmore
    have hin := List.mem_append_right before hdealt
    rw [← hmore] at hin
    cases s.table.game? <;> simp [Ending.events] at hin

/-- Rules by which the fourth hand costs more than the greatest amount. -/
def steepRules : Rules where
  minWager := 1
  flatWagerHands := 0
  wagerStep := 2305843009213693952

end Play

end BloodStakes
