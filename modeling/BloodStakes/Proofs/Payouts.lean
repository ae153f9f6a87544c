import BloodStakes.Proofs.Agreement
import BloodStakes.Proofs.Stakes

/-!
Payouts. Whatever the effects of its end have made of the pot, a hand that is settled hands out all
of it, but for a push: that halves the pot, and the odd unit of an odd one is lost.
-/
namespace BloodStakes

/-- How an open hand is settled: by its outcome, or by giving it up. -/
inductive Settlement where
  | compared (outcome : Outcome)
  | givenUp
  deriving DecidableEq, Repr

namespace Settlement

def play (house : House) : Settlement → Play HandStatus
  | compared outcome => .settle house.catalog outcome
  | givenUp => .surrender house

/-- What fires before the pot is paid out. -/
def phase : Settlement → Phase
  | compared outcome => outcome.phase
  | givenUp => .onLoss

def status : Settlement → HandStatus
  | compared outcome => .ofOutcome outcome
  | givenUp => .lost

/-- The session once the effects have fired. -/
def fired (way : Settlement) (house : House) (s : Session) : Session :=
  (s.fireTable house.catalog way.phase).1

/-- What a side is credited with, before it is cut to what the side may hold; without a share the
pool is left alone. -/
def share? : Settlement → (pot : Int) → Side → Option Int
  | compared .won, pot, .player => some pot
  | compared .won, _, .daimon => none
  | compared .lost, _, .player => none
  | compared .lost, pot, .daimon => some pot
  | compared .pushed, pot, _ => some (pot.tdiv 2)
  | givenUp, pot, .player => some (pot.tdiv 4)
  | givenUp, pot, .daimon => some (pot - pot.tdiv 4)

/-- What both sides are credited with. -/
def handedOut (way : Settlement) (pot : Int) : Int :=
  (way.share? pot .player).getD 0 + (way.share? pot .daimon).getD 0

def pay (way : Settlement) (pot : Int) (s : Session) : Session :=
  match way with
  | compared outcome => s.payPot outcome pot
  | givenUp => (s.changePlayerPool (pot.tdiv 4)).changeDaimonPool (pot - pot.tdiv 4)

variable {way : Settlement} {pot : Int}

private theorem share?_nonneg (hpot : 0 ≤ pot) {side : Side} {amount : Int}
    (h : way.share? pot side = some amount) : 0 ≤ amount := by
  have hquarter : pot.tdiv 4 = pot / 4 := Int.tdiv_eq_ediv_of_nonneg hpot
  have hhalf : pot.tdiv 2 = pot / 2 := Int.tdiv_eq_ediv_of_nonneg hpot
  match way, side, h with
  | compared .won, .player, rfl => exact hpot
  | compared .lost, .daimon, rfl => exact hpot
  | compared .pushed, _, rfl =>
    rw [hhalf]
    omega
  | givenUp, .player, rfl =>
    rw [hquarter]
    omega
  | givenUp, .daimon, rfl =>
    rw [hquarter]
    omega

theorem handedOut_pushed (pot : Int) : (compared .pushed).handedOut pot = 2 * pot.tdiv 2 := by
  simp only [handedOut, share?, Option.getD_some]
  omega

theorem handedOut_of_ne_pushed (h : way ≠ compared .pushed) : way.handedOut pot = pot := by
  match way, h with
  | compared .won, _ => exact Int.add_zero pot
  | compared .lost, _ => exact Int.zero_add pot
  | compared .pushed, h => exact absurd rfl h
  | givenUp, _ =>
    simp only [handedOut, share?, Option.getD_some]
    omega

theorem handedOut_eq_iff : way.handedOut pot = pot ↔ (way = compared .pushed → 2 ∣ pot) := by
  by_cases hway : way = compared .pushed
  · subst hway
    rw [handedOut_pushed]
    exact ⟨fun h _ => ⟨_, h.symm⟩, fun h => Int.mul_tdiv_cancel' (h rfl)⟩
  · exact iff_of_true (handedOut_of_ne_pushed hway) fun h => absurd h hway

private theorem sub_handedOut_le (hpot : 0 ≤ pot) :
    0 ≤ pot - way.handedOut pot ∧ pot - way.handedOut pot ≤ 1 := by
  by_cases hway : way = compared .pushed
  · subst hway
    rw [handedOut_pushed, Int.tdiv_eq_ediv_of_nonneg hpot]
    omega
  · rw [handedOut_of_ne_pushed hway]
    omega

end Settlement

namespace Session

variable {house : House} {s s' : Session} {round : Round}

/-- A pool that has been credited with its share of the pot, if it has one. -/
def credited (pool maximum : Int) : (share? : Option Int) → Int
  | none => pool
  | some amount => clampedSum pool amount maximum

theorem changePlayerPool_round (delta : Int) (hround : s.table.round? = some round) :
    (∃ status, (s.changePlayerPool delta).table.round? = some { round with status }) ∧
      (s.changePlayerPool delta).table.player.bloodPool =
        clampedSum s.table.player.bloodPool delta round.ceiling := by
  obtain ⟨status, hround', hpool⟩ := settleRound_table (s := s.putPlayer { s.table.player with
    bloodPool := clampedSum s.table.player.bloodPool delta s.ceiling }) hround
  have hceiling := congrArg (clampedSum s.table.player.bloodPool delta) (s.ceiling_of_round hround)
  exact ⟨⟨status, hround'⟩, hpool.trans hceiling⟩

theorem changeDaimonPool_round (delta : Int) (hround : s.table.round? = some round) :
    (∃ status, (s.changeDaimonPool delta).table.round? = some { round with
        status, daimonPool := clampedSum round.daimonPool delta round.daimonMaximum }) ∧
      (s.changeDaimonPool delta).table.player.bloodPool = s.table.player.bloodPool := by
  simp only [changeDaimonPool, hround]
  obtain ⟨status, hround', hpool⟩ := settleRound_table (s := s.putRound { round with
    daimonPool := clampedSum round.daimonPool delta round.daimonMaximum }) rfl
  exact ⟨⟨status, hround'⟩, hpool⟩

private theorem pay_round (way : Settlement) (pot : Int) (hround : s.table.round? = some round) :
    (∃ status, (way.pay pot s).table.round? = some { round with
        status
        daimonPool := credited round.daimonPool round.daimonMaximum (way.share? pot .daimon) }) ∧
      (way.pay pot s).table.player.bloodPool =
        credited s.table.player.bloodPool round.ceiling (way.share? pot .player) := by
  have hboth (refund rest : Int) :
      (∃ status, ((s.changePlayerPool refund).changeDaimonPool rest).table.round? =
          some { round with
            status, daimonPool := clampedSum round.daimonPool rest round.daimonMaximum }) ∧
        ((s.changePlayerPool refund).changeDaimonPool rest).table.player.bloodPool =
          clampedSum s.table.player.bloodPool refund round.ceiling := by
    obtain ⟨⟨status, hplayer⟩, hpool⟩ := changePlayerPool_round refund hround
    have hdaimon := changeDaimonPool_round rest hplayer
    rwa [hpool] at hdaimon
  match way with
  | .compared .won => exact changePlayerPool_round pot hround
  | .compared .lost => exact changeDaimonPool_round pot hround
  | .compared .pushed => exact hboth _ _
  | .givenUp => exact hboth _ _

theorem BloodStep.hand_or_solvent (h : BloodStep s s') :
    s'.table.hand? = s.table.hand? ∨ s'.table.Solvent := by
  obtain ⟨log, rfl⟩ | ⟨delta, rfl⟩ | ⟨t, rfl, hmoves⟩ := h.moves
  · exact .inl rfl
  · unfold changePot
    split
    · exact .inl rfl
    · right
      rintro _ ⟨⟩
      exact Int.le_max_left _ _
  · exact .inl (t.settleRound_hand?.trans hmoves.hand)

theorem Bleeds.hand_or_solvent (h : s.Bleeds s') :
    s'.table.hand? = s.table.hand? ∨ s'.table.Solvent := by
  induction h with
  | refl => exact .inl rfl
  | tail _ step ih =>
    obtain hsame | hsolvent := ih
    · exact step.hand_or_solvent.imp_left (·.trans hsame)
    · exact .inr (step.solvent hsolvent)

theorem Bleeds.pot_nonneg {hand left : Hand} (h : s.Bleeds s') (hhand : s.table.hand? = some hand)
    (hleft : s'.table.hand? = some left) (hpot : 0 ≤ hand.pot ∨ left.pot ≠ hand.pot) :
    0 ≤ left.pot := by
  obtain hsame | hsolvent := h.hand_or_solvent
  · cases hleft.symm.trans (hsame.trans hhand)
    exact hpot.resolve_right (absurd rfl)
  · exact hsolvent left hleft

end Session

namespace Play

open Session

variable {house : House} {s : Session}

private theorem finishHand_vitals (status : HandStatus) (s : Session) :
    ((finishHand status).after s).table.vitals = s.table.vitals := by
  have hleads : Leads (fun s s' => s'.table.vitals = s.table.vitals) (finishHand status) s := by
    refine .hand_bind fun hand hhand => ?_
    refine .ranks_bind fun player hplayer => .ranks_bind fun daimon hdaimon => ?_
    exact .modify_bind (.single (Closes.intro hhand hplayer hdaimon).vitals) (leads_pure _)
  have hsteps := hleads.steps
  generalize (finishHand status).after s = s' at hsteps ⊢
  induction hsteps with
  | refl => rfl
  | tail _ hstep ih => exact hstep.trans ih

private theorem settlement_after (way : Settlement) (house : House)
    (hopen : s.handInProgress = true)
    (hmove : way = .givenUp → .surrender ∈ s.availableMoves) {left : Hand}
    (hgoing : (way.fired house s).roundTerminal = false)
    (hleft : (way.fired house s).table.hand? = some left) :
    (way.play house).after s =
      (finishHand way.status).after (way.pay left.pot (way.fired house s)) := by
  cases way with
  | compared outcome =>
    apply after_congr
    simp only [Settlement.fired, Settlement.phase] at hgoing hleft
    simp [Settlement.play, settle, unlessOver, run_hand, hopen, hgoing, hleft,
      Settlement.fired, Settlement.phase, Settlement.status, Settlement.pay]
  | givenUp =>
    apply after_congr
    simp only [Settlement.fired, Settlement.phase] at hgoing hleft
    simp [Settlement.play, surrender, ensureAvailable, unlessOver, run_hand, hopen,
      hmove rfl, hgoing, hleft, Settlement.fired, Settlement.phase, Settlement.status,
      Settlement.pay]

end Play

namespace Settlement

open Session

/-- If the effects of its end leave the round in progress, an open hand that is settled credits
both sides with shares of the pot as the effects have left it, cut to what the pools may hold. The
shares are not negative, and they are the whole pot, unless an odd pot is pushed: then one unit is
lost. -/
theorem hands_out_pot (way : Settlement) (house : House) (s : Session) {hand : Hand}
    (hhand : s.table.hand? = some hand) (hopen : hand.isInProgress = true)
    (hmove : way = .givenUp → .surrender ∈ s.availableMoves)
    (hgoing : (way.fired house s).roundInProgress = true) :
    ∃ round left final,
      (way.fired house s).table.round? = some round ∧
      (way.fired house s).table.hand? = some left ∧
      ((way.play house).after s).table.round? = some final ∧
      ((way.play house).after s).table.player.bloodPool =
        credited (way.fired house s).table.player.bloodPool round.ceiling
          (way.share? left.pot .player) ∧
      final.daimonPool =
        credited round.daimonPool round.daimonMaximum (way.share? left.pot .daimon) ∧
      (way.handedOut left.pot = left.pot ↔ (way = .compared .pushed → 2 ∣ left.pot)) ∧
      (0 ≤ hand.pot ∨ left.pot ≠ hand.pot →
        (∀ side amount, way.share? left.pot side = some amount → 0 ≤ amount) ∧
        0 ≤ left.pot - way.handedOut left.pot ∧ left.pot - way.handedOut left.pot ≤ 1) := by
  have hfire : s.Bleeds (way.fired house s) := (s.fireTable_flows house.catalog way.phase).bleeds
  have hplaying : s.handInProgress = true := s.handInProgress_iff.mpr ⟨hand, hhand, hopen⟩
  obtain ⟨round, hround, -⟩ := (roundInProgress_iff _).mp hgoing
  obtain ⟨left, hleft, -⟩ := (handInProgress_iff _).mp
    ((handInProgress_of_steady hfire.steady).trans hplaying)
  obtain ⟨⟨status, hpaid⟩, hplayer⟩ := pay_round way left.pot hround
  -- closing the hand comes after the payment, and leaves it as it is
  have hvitals := Play.finishHand_vitals way.status (way.pay left.pot (way.fired house s))
  rw [← Play.settlement_after way house hplaying hmove (roundTerminal_of_inProgress hgoing) hleft]
    at hvitals
  obtain ⟨hpool, hfinal⟩ := Table.vitals_eq hvitals.symm
  obtain ⟨final, hfinal, -, hdaimon, -⟩ := hfinal _ hpaid
  refine ⟨round, left, final, hround, hleft, hfinal, hpool.symm.trans hplayer, hdaimon,
    handedOut_eq_iff, fun hpot => ?_⟩
  have hpot' := hfire.pot_nonneg hhand hleft hpot
  exact ⟨fun side amount => share?_nonneg hpot', sub_handedOut_le hpot'⟩

/-- A house with decks of four cards, whose daimon takes a unit out of a pot that is pushed. -/
def grudgingHouse : House where
  rules := { Service.smallHouse.rules with deckSize := 4 }
  catalog := {
    daimons := [{
      id := 1
      name := "Mara"
      rune := "m"
      storySequence := 0
      effect := {
        kindId := EffectKind.increasePotOnWin.id
        bundle := .ofList [(.bloodWager, ⟨-0.25, .onPush⟩)] }
      intro := ""
      playerWin := ""
      playerLose := "" }] }

/-- The second round is played with four tens, and its first hand is open. -/
def tensHand : Session :=
  ({ table := { player := .ofStarter 1 "Ada" starterDeck grudgingHouse.rules }
     rng := .ofSeed 7 } : Session).afterAll grudgingHouse
    [.ask .startGame, .ask (.assignDeck [269, 270, 271, 272]), .ask .startRound, .ask .startHand,
      .ask .startRound, .ask .startHand]

/-- With an odd pot the player who gives up gets the quarter rounded down, and the daimon all of
the rest. -/
theorem hands_out_pot_tensHand :
    ∃ left, (givenUp.fired grudgingHouse (tensHand.changePot 9)).table.hand? = some left ∧
      givenUp.handedOut left.pot = left.pot ∧ left.pot = 13 ∧
      givenUp.share? 13 .player = some 3 ∧ givenUp.share? 13 .daimon = some 10 := by
  have hmove : .surrender ∈ (tensHand.changePot 9).availableMoves := by decide +kernel
  have hgoing : (givenUp.fired grudgingHouse (tensHand.changePot 9)).roundInProgress = true := by
    decide +kernel
  have hpot : (givenUp.fired grudgingHouse (tensHand.changePot 9)).table.hand?.map Hand.pot =
      some 13 := by decide +kernel
  obtain ⟨hand, hhand, hopen⟩ := (tensHand.changePot 9).handInProgress_iff.mp
    (Play.inProgress_of_available hmove).1
  obtain ⟨round, left, final, -, hleft, -, -, -, hall, -⟩ := hands_out_pot .givenUp
    grudgingHouse (tensHand.changePot 9) hhand hopen (fun _ => hmove) hgoing
  rw [hleft, Option.map_some, Option.some_inj] at hpot
  exact ⟨left, hleft, hall.mpr nofun, hpot, rfl, rfl⟩

/-- Four tens always push. Of a pot of three each side is credited with one unit, although both
could hold more. -/
theorem push_drops_unit :
    ((compared .pushed).fired grudgingHouse tensHand).roundInProgress = true ∧
    ((compared .pushed).fired grudgingHouse tensHand).table.stakes?.map (fun b =>
      (b.hand, b.pot, b.player, b.ceiling, b.daimon, b.maximum)) =
        some (.inProgress, 3, 1, 7, 2, 4) ∧
    (((compared .pushed).play grudgingHouse).after tensHand).table.stakes?.map (fun b =>
      (b.hand, b.pot, b.player, b.ceiling, b.daimon, b.maximum)) =
        some (.pushed, 3, 2, 7, 3, 4) ∧
    (compared .pushed).handedOut 3 ≠ 3 :=
  ⟨by decide +kernel, by decide +kernel, by decide +kernel, by decide⟩

end Settlement

end BloodStakes
