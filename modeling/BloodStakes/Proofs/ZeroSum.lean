import BloodStakes.Proofs.Stakes
import BloodStakes.Proofs.Tutorial

/-!
A hand is zero-sum. From its start to its end, with any number of draws in between, what one
pool loses the other gains, as long as no effect fires and the round goes on; only what does not
fit into a pool is lost.
-/
namespace BloodStakes

/-- The request is granted on the first table and leaves the second, and no effect fires. -/
def Calmly (house : House) (request : Request) (t t' : Table) : Prop :=
  ∃ (s s' : Session) (reply : Reply), s.table = t ∧ s'.table = t' ∧
    (request.play house).run s = .ok reply s' ∧ s'.effectLogs = s.effectLogs

/-- A hand from its start on, and whether it has been given up. -/
inductive HandRun (house : House) (t : Table) : Bool → Table → Prop
  | started {u : Table} (h : Calmly house .startHand t u) : HandRun house t false u
  | drawn {u v : Table} (h : HandRun house t false u) (hdraw : Calmly house .draw u v) :
      HandRun house t false v
  | stood {u v : Table} (h : HandRun house t false u) (hstand : Calmly house .stand u v) :
      HandRun house t false v
  | surrendered {u v : Table} (h : HandRun house t false u)
      (hsurrender : Calmly house .surrender u v) : HandRun house t true v

variable {house : House} {t u : Table} {request : Request} {b : Stakes}

theorem Calmly.exists_run (h : Calmly house request t u) (hgame : request ≠ .startGame)
    (hround : request ≠ .startRound) (hgoing : u.round?.any Round.isInProgress = true) :
    t.round?.any Round.isInProgress = true ∧
      ∃ (s s' : Session) (reply : Reply), s.table = t ∧ s'.table = u ∧ s.Calm s' ∧
        (request.play house).run s = .ok reply s' := by
  obtain ⟨s, s', reply, rfl, rfl, hrun, hlogs⟩ := h
  have hcalm : s.Calm s' := ⟨hlogs, hgoing⟩
  have hdeeds := (Play.request_leads_deeds hgame hround).deeds hrun
  exact ⟨hcalm.going_before hdeeds, s, s', reply, rfl, rfl, hcalm, hrun⟩

theorem Stakes.Settled.exists_stakes (h : b.Settled t) :
    ∃ b', t.stakes? = some b' ∧ (b'.hand = .inProgress → b' = b) := by
  obtain h | ⟨outcome, h⟩ := h
  · exact ⟨b, h, fun _ => rfl⟩
  · refine ⟨b.paid outcome, h, fun hopen => ?_⟩
    rw [Stakes.paid_hand] at hopen
    cases outcome <;> cases hopen

/-- A hand that has been given up has paid its refund; any other is open or settled. -/
def Stakes.EndsAs (b : Stakes) (givenUp : Bool) (t : Table) : Prop :=
  if givenUp then t.stakes? = some b.refunded else b.Settled t

theorem Calmly.endsAs {givenUp : Bool} (h : Calmly house request t u) (hb : b.Settled t)
    (hgame : request ≠ .startGame) (hround : request ≠ .startRound)
    (hgoing : u.round?.any Round.isInProgress = true)
    (hplay : ∀ {s s' : Session} {found : Stakes} {reply : Reply}, s.table.stakes? = some found →
      s.Calm s' → (request.play house).run s = .ok reply s' →
        found.hand = .inProgress ∧ found.EndsAs givenUp s'.table) : b.EndsAs givenUp u := by
  obtain ⟨-, s, s', reply, rfl, rfl, hcalm, hrun⟩ := h.exists_run hgame hround hgoing
  obtain ⟨found, hfound, hsame⟩ := hb.exists_stakes
  obtain ⟨hopen, hdone⟩ := hplay hfound hcalm hrun
  exact hsame hopen ▸ hdone

theorem HandRun.ends {givenUp : Bool} {round : Round} {stake : Int}
    (h : HandRun house t givenUp u) (hround : t.round? = some round)
    (hstake : house.rules.wagerFor round.handsPlayed t.player.bloodPool = stake)
    (hgoing : u.round?.any Round.isInProgress = true) :
    stake ≠ 0 ∧
      0 < Session.clampedSum round.daimonPool (Amount.wrap (-stake)) round.daimonMaximum ∧
      (Stakes.opened t.player.bloodPool round stake).EndsAs givenUp u := by
  induction h with
  | started h =>
    obtain ⟨-, s, s', reply, rfl, rfl, hcalm, hrun⟩ := h.exists_run nofun nofun hgoing
    obtain ⟨status, hrun, -⟩ := Play.bind_pure_eq_ok.mp hrun
    exact Play.startHand_stakes hround hstake hcalm hrun
  | drawn _ hdraw ih =>
    obtain ⟨hpositive, hdaimon, hb⟩ := ih (hdraw.exists_run nofun nofun hgoing).1
    refine ⟨hpositive, hdaimon, hdraw.endsAs hb nofun nofun hgoing ?_⟩
    intro s s' found reply hfound hcalm hrun
    obtain ⟨card, hrun, -⟩ := Play.bind_pure_eq_ok.mp hrun
    exact Play.draw_stakes hfound hcalm hrun
  | stood _ hstand ih =>
    obtain ⟨hpositive, hdaimon, hb⟩ := ih (hstand.exists_run nofun nofun hgoing).1
    refine ⟨hpositive, hdaimon, hstand.endsAs hb nofun nofun hgoing ?_⟩
    intro s s' found reply hfound hcalm hrun
    obtain ⟨status, hrun, -⟩ := Play.bind_pure_eq_ok.mp hrun
    exact (Play.stand_stakes hfound hcalm hrun).imp_right .inr
  | surrendered _ hsurrender ih =>
    obtain ⟨hpositive, hdaimon, hb⟩ := ih (hsurrender.exists_run nofun nofun hgoing).1
    refine ⟨hpositive, hdaimon, hsurrender.endsAs hb nofun nofun hgoing ?_⟩
    intro s s' found reply hfound hcalm hrun
    obtain ⟨status, hrun, -⟩ := Play.bind_pure_eq_ok.mp hrun
    exact Play.surrender_stakes hfound hcalm hrun

theorem Stakes.opened_eq {pool stake : Int} {round : Round} (hstake : 0 ≤ stake)
    (hneg : Amount.Fits (-stake)) (hpot : Amount.Fits (stake * 2))
    (hle : stake ≤ pool) (hceiling : pool ≤ round.ceiling)
    (hmaximum : round.daimonPool ≤ round.daimonMaximum) (hdaimon : 0 <
      Session.clampedSum round.daimonPool (Amount.wrap (-stake)) round.daimonMaximum) :
    stake < round.daimonPool ∧ Stakes.opened pool round stake =
      ⟨pool - stake, round.ceiling, round.daimonPool - stake, round.daimonMaximum, stake * 2,
        .inProgress⟩ := by
  rw [Amount.wrap_of_fits hneg] at hdaimon
  unfold Session.clampedSum at hdaimon
  have hless : stake < round.daimonPool := by omega
  have hpool : Session.clampedSum pool (-stake) round.ceiling = pool - stake := by
    unfold Session.clampedSum
    omega
  have hrest : Session.clampedSum round.daimonPool (-stake) round.daimonMaximum =
      round.daimonPool - stake := by
    unfold Session.clampedSum
    omega
  refine ⟨hless, ?_⟩
  unfold opened
  rw [Amount.wrap_of_fits hneg, Amount.wrap_of_fits hpot, hpool, hrest]

/-- Both pools after a hand, the player's first. The stake goes from the one side to the other, as
far as the pool there can take it; a push gives it back, and half of it is left to a player who
gives up. -/
def Round.poolsAfter (round : Round) (pool stake : Int) : Bool → HandStatus → Int × Int
  | true, _ =>
    (pool - stake + stake / 2, min round.daimonMaximum (round.daimonPool + stake - stake / 2))
  | false, .won => (min round.ceiling (pool + stake), round.daimonPool - stake)
  | false, .lost => (pool - stake, min round.daimonMaximum (round.daimonPool + stake))
  | false, .pushed => (pool, round.daimonPool)
  | false, .inProgress => (pool - stake, round.daimonPool - stake)

theorem Round.poolsAfter_paid {round : Round} {pool stake : Int} (outcome : Outcome)
    (hstake : 0 < stake) (hpool : stake < pool) (hdaimon : stake < round.daimonPool)
    (hceiling : pool ≤ round.ceiling) (hmaximum : round.daimonPool ≤ round.daimonMaximum)
    {b : Stakes} (hb : b = ⟨pool - stake, round.ceiling, round.daimonPool - stake,
      round.daimonMaximum, stake * 2, .inProgress⟩) :
    ((b.paid outcome).player, (b.paid outcome).daimon) =
      round.poolsAfter pool stake false (.ofOutcome outcome) := by
  have hhalf : (stake * 2).tdiv 2 = stake := Int.mul_tdiv_cancel stake (by decide)
  rw [hb]
  apply Prod.ext
  · cases outcome <;>
      simp only [poolsAfter, HandStatus.ofOutcome, Stakes.paid, Session.clampedSum, hhalf] <;>
      omega
  · cases outcome <;>
      simp only [poolsAfter, HandStatus.ofOutcome, Stakes.paid, Session.clampedSum, hhalf] <;>
      omega

theorem Round.poolsAfter_refunded {round : Round} {pool stake : Int} (status : HandStatus)
    (hstake : 0 < stake) (hpool : stake < pool) (hdaimon : stake < round.daimonPool)
    (hceiling : pool ≤ round.ceiling) (hmaximum : round.daimonPool ≤ round.daimonMaximum)
    {b : Stakes} (hb : b = ⟨pool - stake, round.ceiling, round.daimonPool - stake,
      round.daimonMaximum, stake * 2, .inProgress⟩) :
    (b.refunded.player, b.refunded.daimon) = round.poolsAfter pool stake true status := by
  have hquarter : (stake * 2).tdiv 4 = stake / 2 := by
    rw [Int.tdiv_eq_ediv_of_nonneg (by omega)]
    omega
  rw [hb]
  simp only [poolsAfter, Stakes.refunded, Session.clampedSum, hquarter, Prod.mk.injEq]
  omega

/-- A hand never adds blood, and none is lost but what does not fit into the pool that gains. -/
theorem Round.poolsAfter_sum {round : Round} {pool stake player daimon : Int} {givenUp : Bool}
    {status : HandStatus} (hclosed : status ≠ .inProgress) (hstake : 0 < stake)
    (h : (player, daimon) = round.poolsAfter pool stake givenUp status) :
    player + daimon ≤ pool + round.daimonPool ∧
      (player + daimon = pool + round.daimonPool ∨
        player = round.ceiling ∧ round.ceiling < pool + stake ∨
        daimon = round.daimonMaximum ∧ round.daimonMaximum < round.daimonPool + stake) := by
  cases givenUp with
  | true =>
    simp only [poolsAfter, Prod.mk.injEq] at h
    omega
  | false =>
    cases status with
    | inProgress => exact absurd rfl hclosed
    | _ =>
      simp only [poolsAfter, Prod.mk.injEq] at h
      omega

/-- A round after the tutorial whose shoe gives the player five, six and three, and the daimon
two tens. -/
def Session.stackedRound : Session :=
  let s := Session.tutorialRound [264, 265, 270, 262, 269] []
  s.putPlayer { s.table.player with tutorialFinished := true }

/-- A house whose second wager is past the greatest amount, and comes out below zero. -/
def wrappingHouse : House where
  rules := {
    minWager := 9223372036854775758
    flatWagerHands := 0
    wagerStep := 9223372036854775757 }

/-- A round after the tutorial whose shoe gives the player a natural. -/
def Session.naturalRound : Session :=
  let s := Session.tutorialRound [273, 272, 261, 262] []
  s.putPlayer { s.table.player with tutorialFinished := true }

end BloodStakes
