import BloodStakes.Catalog.Validation
import BloodStakes.Proofs.Alive
import BloodStakes.Proofs.Nesting
import BloodStakes.Proofs.Upsetting

/-!
Agreement of the status of a round with the pools. A round ends in agreement with them, and
stakes and pots keep it; an effect keeps it unless it upsets the round.
-/
namespace BloodStakes

namespace Session

variable {s s' : Session}

theorem endRound_events (s : Session) (round : Round) (status : RoundStatus) :
    .roundEnded round.number status ∈ (s.endRound round status).events := by
  have hfinish (t : Session) : t.finishTutorial.events = t.events := by
    unfold finishTutorial
    split <;> rfl
  unfold endRound
  dsimp only
  split
  · unfold loseGame
    split
    · simp [hfinish, emit, putRound, putGame]
    · simp [hfinish, emit, putRound]
  · simp [hfinish, emit, putRound]

theorem settleRound_table {round : Round} (hround : s.table.round? = some round) :
    ∃ status, s.settleRound.table.round? = some { round with status } ∧
      s.settleRound.table.player.bloodPool = s.table.player.bloodPool := by
  obtain h | ⟨before, status, hbefore, -, -, h⟩ := s.settleRound_cases
  · rw [h]
    exact ⟨round.status, hround, rfl⟩
  · cases hround.symm.trans hbefore
    rw [h, endRound_table]
    exact ⟨status, rfl, rfl⟩

/-- If the round is over, its end has been announced, and it agrees with the pools unless an
effect has upset it since. -/
def Agreed (s : Session) : Prop :=
  ∀ round, s.table.round? = some round → round.isInProgress = false →
    (∃ number, .roundEnded number round.status ∈ s.events) ∧
      (round.Agrees s.table.player.bloodPool ∨ Event.anyUpset s.events = true)

theorem Agreed.of_going (h : s.roundInProgress = true) : s.Agreed := by
  intro round hround hover
  obtain ⟨_, hround', hopen⟩ := s.roundInProgress_iff.mp h
  cases hround.symm.trans hround'
  rw [hopen] at hover
  cases hover

theorem Agreed.emit (h : s.Agreed) (event : Event) : (s.emit event).Agreed := by
  intro round hround hover
  obtain ⟨⟨number, hended⟩, hagrees⟩ := h round hround hover
  refine ⟨⟨number, List.mem_append_left _ hended⟩, ?_⟩
  exact hagrees.imp_right fun hupset => Event.anyUpset_append hupset _

theorem settleRound_agreed (hopen : s.roundInProgress = true)
    (hplayer : 0 ≤ s.table.player.bloodPool)
    (hdaimon : ∀ round, s.table.round? = some round → 0 ≤ round.daimonPool) :
    s.settleRound.Agreed := by
  obtain ⟨before, hbefore, hopen'⟩ := s.roundInProgress_iff.mp hopen
  have hpool := hdaimon before hbefore
  have hgoing : ¬ before.isTerminal = true := by simp [Round.isTerminal, hopen']
  unfold settleRound
  rw [hbefore]
  dsimp only
  rw [if_neg hgoing]
  split
  · intro round hround _
    have hevents := s.endRound_events before .lost
    rw [endRound_table] at hround ⊢
    cases hround
    refine ⟨⟨before.number, hevents⟩, .inl ?_⟩
    simp only [Round.Agrees]
    omega
  · split
    · intro round hround _
      have hevents := s.endRound_events before .won
      rw [endRound_table] at hround ⊢
      cases hround
      refine ⟨⟨before.number, hevents⟩, .inl ?_⟩
      simp only [Round.Agrees]
      omega
    · exact .of_going hopen

theorem BloodStep.agreed (h : BloodStep s s') (hopen : s.roundInProgress = true)
    (hs : s.table.Alive) : s'.Agreed := by
  obtain ⟨before, hbefore, hopen'⟩ := s.roundInProgress_iff.mp hopen
  obtain ⟨hplayer, hceiling⟩ := hs.player before hbefore hopen'
  obtain ⟨hdaimon, hmaximum⟩ := hs.daimon before hbefore hopen'
  have hpool (round : Round) (hround : s.table.round? = some round) : 0 ≤ round.daimonPool := by
    cases hbefore.symm.trans hround
    exact Int.le_of_lt hdaimon
  cases h with
  | record log => exact .of_going hopen
  | playerPool delta => exact settleRound_agreed hopen (clampedSum_nonneg _ _ _) hpool
  | daimonPool delta =>
    simp only [changeDaimonPool, hbefore]
    refine settleRound_agreed hopen' (Int.le_of_lt hplayer) ?_
    rintro _ ⟨⟩
    exact clampedSum_nonneg _ _ _
  | ceiling multiplier round hround =>
    cases hbefore.symm.trans hround
    have hscale := Amount.scale_nonneg s.ceiling multiplier
    simp only [scaleCeiling, putCeiling, hbefore]
    refine settleRound_agreed hopen' (Int.le_min.mpr ⟨Int.le_of_lt hplayer, hscale⟩) ?_
    rintro _ ⟨⟩
    exact Int.le_of_lt hdaimon
  | daimonMaximum multiplier =>
    have hscale := Amount.scale_nonneg before.daimonMaximum multiplier
    simp only [scaleDaimonMaximum, hbefore]
    refine settleRound_agreed hopen' (Int.le_of_lt hplayer) ?_
    rintro _ ⟨⟩
    exact Int.le_min.mpr ⟨Int.le_of_lt hdaimon, hscale⟩
  | pot delta =>
    apply Agreed.of_going
    unfold changePot
    split <;> exact hopen

/-- Both sides are alive while the round goes on, and agree with its status once it is over. -/
structure Faithful (s : Session) : Prop where
  alive : s.table.Alive
  agreed : s.Agreed

private theorem effect_agreed (hs : s.Faithful) (source : EffectSource) (phase : Phase)
    (action : Action)
    (value : Float) : ((s.perform action value).1.emit
      (.effectApplied ⟨source, phase, action, (s.perform action value).2⟩)).Agreed := by
  cases hopen : s.roundInProgress with
  | true =>
    apply Agreed.emit
    obtain hsame | hstep := s.perform_step action value
    · rw [hsame]
      exact .of_going hopen
    · exact hstep.agreed hopen hs.alive
  | false =>
    intro after hafter _
    cases hround : s.table.round? with
    | none =>
      -- no effect opens a round
      have hsteady := (s.perform_bleeds action value).steady
      have hnone := isSome_round_of_steady hsteady
      rw [hround] at hnone
      simp only [emit_table] at hafter
      rw [hafter] at hnone
      cases hnone
    | some round =>
      have hover : round.isInProgress = false := by
        simpa [roundInProgress, hround] using hopen
      obtain ⟨⟨number, hended⟩, hagrees⟩ := hs.agreed round hround hover
      obtain ⟨hevents, round', hround', hstatus, hspares⟩ :=
        perform_spares hround hover action value
      cases hround'.symm.trans hafter
      have hended' : .roundEnded number round.status ∈ (s.perform action value).1.events :=
        hevents.symm ▸ hended
      refine ⟨⟨number, List.mem_append_left _ (hstatus ▸ hended')⟩, ?_⟩
      obtain hagrees | hupset := hagrees
      · obtain hagrees | hupset := hspares hagrees
        · exact .inl hagrees
        · exact .inr (Event.anyUpset_of_mem hended' hupset)
      · exact .inr (Event.anyUpset_append (hevents.symm ▸ hupset) _)

theorem payStakes_agreed {stake : Int} (hopen : s.roundInProgress = true)
    (hpays : Amount.Fits (-stake)) (hle : stake ≤ s.table.player.bloodPool - 1)
    (hs : s.table.Alive) : (s.payStakes stake).Agreed := by
  obtain ⟨before, hbefore, hopen'⟩ := s.roundInProgress_iff.mp hopen
  obtain ⟨hplayer, hceiling⟩ := hs.player before hbefore hopen'
  unfold payStakes
  rw [Amount.wrap_of_fits hpays]
  have hstaked : (s.changeDaimonPool (-stake)).Agreed :=
    (BloodStep.daimonPool s (-stake)).agreed hopen hs
  have halive : (s.changeDaimonPool (-stake)).table.Alive :=
    (BloodStep.daimonPool s (-stake)).alive hs
  have htable : ∃ round, (s.changeDaimonPool (-stake)).table.round? = some round ∧
      round.ceiling = before.ceiling ∧
      (s.changeDaimonPool (-stake)).table.player.bloodPool = s.table.player.bloodPool := by
    simp only [changeDaimonPool, hbefore]
    obtain ⟨status, hround, hpool⟩ := settleRound_table (s := s.putRound { before with
      daimonPool := clampedSum before.daimonPool (-stake) before.daimonMaximum }) rfl
    exact ⟨_, hround, rfl, hpool⟩
  generalize s.changeDaimonPool (-stake) = t at hstaked halive htable ⊢
  obtain ⟨round, hround, hsame, hpool⟩ := htable
  cases hgoing : t.roundInProgress with
  | true => exact (BloodStep.playerPool t (-stake)).agreed hgoing halive
  | false =>
    have hover : round.isInProgress = false := by
      simpa [roundInProgress, hround] using hgoing
    have hleft : 0 < clampedSum t.table.player.bloodPool (-stake) t.ceiling := by
      rw [t.ceiling_of_round hround, hsame, hpool]
      unfold clampedSum
      omega
    rw [changePlayerPool_of_over hround hover]
    intro after hafter hover'
    cases hround.symm.trans hafter
    obtain ⟨hended, hagrees⟩ := hstaked round hround hover
    refine ⟨hended, hagrees.imp_left fun hagrees => ?_⟩
    unfold Round.Agrees at hagrees ⊢
    obtain hstatus | hstatus := Round.status_of_over hover <;>
      simp only [hstatus, putPlayer_table] at hagrees ⊢ <;> omega

theorem refund_agreed (refund rest : Int) (hopen : s.roundInProgress = true)
    (hs : s.table.Alive) : ((s.changePlayerPool refund).changeDaimonPool rest).Agreed := by
  obtain ⟨before, hbefore, hopen'⟩ := s.roundInProgress_iff.mp hopen
  obtain ⟨hdaimon, -⟩ := hs.daimon before hbefore hopen'
  have hrefunded : (s.changePlayerPool refund).Agreed :=
    (BloodStep.playerPool s refund).agreed hopen hs
  have halive : (s.changePlayerPool refund).table.Alive :=
    (BloodStep.playerPool s refund).alive hs
  have htable : ∃ round, (s.changePlayerPool refund).table.round? = some round ∧
      round.daimonPool = before.daimonPool := by
    obtain ⟨status, hround, -⟩ := settleRound_table (s := s.putPlayer { s.table.player with
      bloodPool := clampedSum s.table.player.bloodPool refund s.ceiling }) hbefore
    exact ⟨_, hround, rfl⟩
  generalize s.changePlayerPool refund = t at hrefunded halive htable ⊢
  obtain ⟨round, hround, hsame⟩ := htable
  cases hgoing : t.roundInProgress with
  | true => exact (BloodStep.daimonPool t rest).agreed hgoing halive
  | false =>
    have hover : round.isInProgress = false := by
      simpa [roundInProgress, hround] using hgoing
    rw [changeDaimonPool_of_over hround hover]
    intro after hafter hover'
    cases hafter
    obtain ⟨hended, hagrees⟩ := hrefunded round hround hover
    refine ⟨hended, hagrees.imp_left fun hagrees => ?_⟩
    unfold Round.Agrees at hagrees ⊢
    obtain hstatus | hstatus := Round.status_of_over hover <;>
      simp only [hstatus, putRound_table] at hagrees ⊢ <;> omega

theorem Flow.faithful (h : Flow s s') (hs : s.Faithful) : s'.Faithful := by
  refine ⟨h.bleeds.alive hs.alive, ?_⟩
  -- with no round at all there is nothing to agree
  have hnone (hnone : s.table.round? = none) : s'.Agreed := by
    intro round hround
    have hsame := isSome_round_of_steady h.bleeds.steady
    rw [hnone, hround] at hsame
    cases hsame
  have hopen (hgoing : s.roundTerminal = false) (hround : ¬ s.table.round? = none) :
      s.roundInProgress = true :=
    roundInProgress_of_going (Option.isSome_iff_ne_none.mpr hround) hgoing
  cases h with
  | effect source phase action value => exact effect_agreed hs source phase action value
  | payout outcome hhand hgoing =>
    by_cases hround : s.table.round? = none
    · exact hnone hround
    · cases outcome with
      | won => exact (BloodStep.playerPool s _).agreed (hopen hgoing hround) hs.alive
      | lost => exact (BloodStep.daimonPool s _).agreed (hopen hgoing hround) hs.alive
      | pushed => exact refund_agreed _ _ (hopen hgoing hround) hs.alive
  | refund hhand hgoing =>
    by_cases hround : s.table.round? = none
    · exact hnone hround
    · exact refund_agreed _ _ (hopen hgoing hround) hs.alive

theorem Flows.faithful (h : s.Flows s') (hs : s.Faithful) : s'.Faithful := by
  induction h with
  | refl => exact hs
  | tail _ step ih => exact step.faithful ih

theorem Faithful.emit (hs : s.Faithful) (event : Event) : (s.emit event).Faithful :=
  ⟨hs.alive, hs.agreed.emit event⟩

theorem HandStep.faithful (h : s.HandStep s') (hs : s.Faithful) : s'.Faithful := by
  cases h with
  | flow h => exact h.faithful hs
  | dealt => exact hs.emit _
  | drawn => exact hs.emit _
  | deal hround hhand hcount h =>
    exact ⟨hs.alive.of_vitals h.vitals, .of_going (h.roundInProgress hround)⟩

theorem PlaysOn.faithful (h : s.PlaysOn s') (hs : s.Faithful) : s'.Faithful := by
  induction h with
  | refl => exact hs
  | tail _ step ih => exact step.faithful ih

theorem Closes.faithful {status : HandStatus} (h : s.Closes status s') (hs : s.Faithful) :
    s'.Faithful := by
  refine ⟨hs.alive.of_vitals h.vitals, ?_⟩
  cases h with
  | intro hhand hplayer hdaimon =>
    apply Agreed.emit
    intro round hround
    obtain ⟨before, hbefore, rfl⟩ := Option.map_eq_some_iff.mp hround
    exact hs.agreed before hbefore

theorem Concludes.faithful (h : s.Concludes s') (hs : s.Faithful) : s'.Faithful := by
  obtain ⟨t, status, hplay, -, hclose⟩ := h.closes
  exact hclose.faithful (hplay.faithful hs)

end Session

/-- Both sides are alive while the round goes on, the player has blood while the game does, and
the round agrees with the pools. -/
structure Table.Agreeing (t : Table) : Prop where
  alive : t.Alive
  purse : t.game?.any Game.isInProgress = true → 0 < t.player.bloodPool
  round : ∀ round, t.round? = some round → round.Agrees t.player.bloodPool

theorem Session.Faithful.agreeing {s : Session} (h : s.Faithful) (hround : s.table.round?.isSome)
    (hnested : s.table.standing.Nested) :
    s.table.Agreeing ∨ Event.anyUpset s.events = true := by
  obtain ⟨round, hround⟩ := Option.isSome_iff_exists.mp hround
  have hagrees : round.Agrees s.table.player.bloodPool ∨ Event.anyUpset s.events = true := by
    cases hopen : round.isInProgress with
    | true =>
      left
      have hstatus : round.status = .inProgress := of_decide_eq_true hopen
      unfold Round.Agrees
      rw [hstatus]
      exact ⟨(h.alive.player round hround hopen).1, (h.alive.daimon round hround hopen).1⟩
    | false => exact (h.agreed round hround hopen).2
  refine hagrees.imp_left fun hagrees => ⟨h.alive, fun hgame => ?_, ?_⟩
  · -- a game in progress has not lost its round
    have hlost : round.status ≠ .lost := by
      intro hlost
      have hgame' := hnested.lost.mpr (by simp [Table.standing, hround, hlost])
      obtain ⟨game, hsome, hopen⟩ := Option.any_eq_true _ _ |>.mp hgame
      simp only [Table.standing, hsome, Option.map_some, Option.some.injEq] at hgame'
      simp [Game.isInProgress, hgame'] at hopen
    unfold Round.Agrees at hagrees
    cases hstatus : round.status with
    | inProgress =>
      simp only [hstatus] at hagrees
      exact hagrees.1
    | won =>
      simp only [hstatus] at hagrees
      exact hagrees.2
    | lost => exact absurd hstatus hlost
  · intro round' hround'
    cases hround.symm.trans hround'
    exact hagrees

variable {house : House} {s s' t : Session} {request : Request}

theorem Enters.faithful (h : Enters house s request t) (hs : s.table.Alive) : t.Faithful :=
  ⟨hs.of_vitals h.vitals, .of_going h.roundInProgress⟩

theorem Enters.faithful_of_begins {u : Session} (h : Enters house s request t)
    (hbegin : t.Begins house.rules request u)
    (hpays : request = .startHand → s.table.StakePays house.rules) (hs : s.table.Alive) :
    u.Faithful := by
  have hentered := h.faithful hs
  refine ⟨hbegin.bleeds.alive hentered.alive, ?_⟩
  cases hbegin with
  | forfeit hopen => exact (Session.BloodStep.playerPool t _).agreed hopen hentered.alive
  | @stakes round stake hopen hround hstake =>
    obtain ⟨_, hround', hopen'⟩ := t.roundInProgress_iff.mp hopen
    obtain ⟨hpool, -⟩ := hentered.alive.player _ hround' hopen'
    refine Session.payStakes_agreed hopen ?_ (hstake ▸ Rules.wagerFor_le hpool) hentered.alive
    cases h with
    | @startHand before _ hbefore =>
      have hhands : before.handsPlayed + 1 = round.handsPlayed + 1 :=
        congrArg Round.handsPlayed (Option.some.inj hround)
      rw [← hstake, ← Nat.succ.inj hhands]
      exact hpays rfl before hbefore
    | move hmove => simp at hmove
  | move hmove => exact hentered.agreed

theorem Table.Agreeing.of_vitals {t u : Table} (h : t.Agreeing) (hvitals : u.vitals = t.vitals)
    (hgame : u.game? = t.game?) : u.Agreeing := by
  obtain ⟨hpool, hround⟩ := vitals_eq hvitals
  refine ⟨h.alive.of_vitals hvitals, ?_, fun round hu => ?_⟩
  · rw [hgame, hpool]
    exact h.purse
  · obtain ⟨before, hbefore, hstatus, hdaimon, -⟩ := hround round hu
    have hagrees := h.round before hbefore
    unfold Round.Agrees at hagrees ⊢
    rwa [hstatus, hdaimon, ← hpool] at hagrees

theorem Session.openGame_agreeing (s : Session) (hmaximum : 0 < s.table.player.maxBloodPool) :
    s.openGame.table.Agreeing :=
  ⟨⟨nofun, nofun⟩, fun _ => hmaximum, nofun⟩

theorem Session.openRound_alive {daimon : Daimon} {game : Game}
    (hdaimon : ∀ number doubled, 0 < house.rules.daimonHealth number doubled)
    (hmaximum : 0 < s.table.player.maxBloodPool) (hpool : 0 < s.table.player.bloodPool) :
    (s.openRound house.rules daimon game).table.Alive := by
  refine ⟨?_, ?_⟩
  · rintro _ ⟨⟩ _
    exact ⟨Int.lt_min.mpr ⟨hpool, hmaximum⟩, hmaximum⟩
  · rintro _ ⟨⟩ _
    exact ⟨hdaimon _ _, hdaimon _ _⟩

/-- A request keeps a table in agreement unless one of its effects upsets the round. -/
theorem Transition.agreeing (h : Transition house s request s')
    (hdaimon : ∀ number doubled, 0 < house.rules.daimonHealth number doubled)
    (hmaximum : 0 < s.table.player.maxBloodPool) (hnested : s.table.standing.Nested)
    (hpays : request = .startHand → s.table.StakePays house.rules)
    (hs : s.table.Agreeing) : s'.table.Agreeing ∨ Event.anyUpset s'.events = true := by
  have hnested' := h.nested hnested
  cases h with
  | startGame hidle => exact .inl (s.openGame_agreeing hmaximum)
  | @startRound _ _ _ rng _ round _ t _ hidle hgame hopen hchosen ht hround hshoe hfire =>
    have hpool : 0 < s.table.player.bloodPool := hs.purse (by simp [hgame, hopen])
    have halive : t.table.Alive := by
      rw [ht]
      exact Session.openRound_alive (s := { s with rng }) hdaimon hmaximum hpool
    have hfilled := hfire.faithful ⟨halive.of_vitals ?_, .of_going ?_⟩
    · have hsome := Session.isSome_round_of_steady hfire.bleeds.steady
      exact hfilled.agreeing (hsome.trans rfl) hnested'
    · simp [Table.vitals, Round.vitals, hround]
    · rw [ht] at hround
      cases hround
      rfl
  | closed henter hbegin h =>
    have hbegun := henter.faithful_of_begins hbegin hpays hs.alive
    have hsome := h.isSome_round.trans (Session.isSome_round_of_steady hbegin.bleeds.steady)
    refine (h.faithful hbegun).agreeing (hsome.trans ?_) hnested'
    exact Session.isSome_round_of_inProgress henter.roundInProgress
  | opened henter hbegin hgoing hdeal =>
    have hbegun := henter.faithful_of_begins hbegin hpays hs.alive
    have hplay := henter.playsOn_opened hbegin hgoing hdeal
    have hsome := Session.isSome_round_of_steady (hplay.steady.trans hbegin.bleeds.steady)
    refine (hplay.faithful hbegun).agreeing (hsome.trans ?_) hnested'
    exact Session.isSome_round_of_inProgress henter.roundInProgress
  | drawn henter hdeal hhand hranks hbust hfire hgoing =>
    have hplay := henter.playsOn_drawn hdeal hfire
    have hsome := Session.isSome_round_of_steady hplay.steady
    refine (hplay.faithful (henter.faithful hs.alive)).agreeing (hsome.trans ?_) hnested'
    exact Session.isSome_round_of_inProgress henter.roundInProgress
  | equipped hplayer hfire hidle hgoing =>
    obtain ⟨loadout, rfl⟩ := Player.equipToken_eq_ok hplayer
    cases hround : s.roundInProgress with
    | true =>
      have hequipped : (s.putPlayer { s.table.player with loadout }).Faithful :=
        ⟨hs.alive.of_vitals rfl, .of_going hround⟩
      have hsome := Session.isSome_round_of_steady hfire.bleeds.steady
      exact (hfire.faithful hequipped).agreeing
        (hsome.trans (Session.isSome_round_of_inProgress hround)) hnested'
    | false =>
      rw [hidle hround]
      exact .inl (hs.of_vitals rfl rfl)
  | deckAssigned hranks hplayer =>
    obtain ⟨-, rfl⟩ := Player.assignDeck_eq_ok hplayer
    exact .inl (hs.of_vitals rfl rfl)
  | rewardClaimed hround hwon hclaim h =>
    obtain ⟨tokens, progression, htable⟩ := Session.claimed_table h
    rw [htable]
    exact .inl (hs.of_vitals (by simp [Table.vitals, Round.vitals, hround]) rfl)

/-- No effect of the request has upset a round, and it has opened no hand with a stake that cannot
be taken away. -/
structure Grant.Spares (rules : Rules) (grant : Grant) : Prop where
  effects : Event.anyUpset grant.report.events = false
  stake : grant.request = .startHand → grant.before.StakePays rules

instance (rules : Rules) (grant : Grant) : Decidable (grant.Spares rules) :=
  decidable_of_iff (_ ∧ _) ⟨fun ⟨heffects, hstake⟩ => ⟨heffects, hstake⟩,
    fun h => ⟨h.effects, h.stake⟩⟩

/-- A player may hold blood, a game is lost with its round, and if every grant of the current game
spares its rounds, the table is in agreement. -/
structure Agrees (rules : Rules) (history : List Grant) (t : Table) : Prop where
  maximum : 0 < t.player.maxBloodPool
  nested : t.standing.Nested
  agreeing : (∀ grant ∈ currentGame history, grant.Spares rules) → t.Agreeing

private theorem agrees_new {rules : Rules} (hhealth : 1 ≤ rules.basePlayerHealth) {player : Player}
    (h : player.IsNew rules) : Agrees rules [] { player } where
  maximum := by
    obtain ⟨id, username, isGuest, rfl⟩ := h
    exact hhealth
  nested := ⟨nofun, nofun, nofun⟩
  agreeing _ := ⟨⟨nofun, nofun⟩, nofun, nofun⟩

private theorem agrees_grant
    (hdaimon : ∀ number doubled, 1 ≤ house.rules.daimonHealth number doubled)
    (history : List Grant) (grant : Grant) (h : Agrees house.rules history grant.before)
    (hgrant : grant.Holds house) : Agrees house.rules (grant :: history) grant.report.table := by
  obtain ⟨rng, s', hrun, htable, hevents, -⟩ := hgrant
  have htransition := Play.request_transition hrun
  have hlasting := (Prod.ext_iff.mp (Prod.ext_iff.mp (Prod.ext_iff.mp
    htransition.lasting.1).2).2).2
  have hmaximum : s'.table.player.maxBloodPool = grant.before.player.maxBloodPool :=
    (Prod.ext_iff.mp hlasting).1
  rw [htable]
  refine ⟨hmaximum ▸ h.maximum, htransition.nested h.nested, fun hspared => ?_⟩
  by_cases hgame : grant.request = .startGame
  · rw [hgame] at htransition
    rw [htransition.startGame_eq]
    exact Session.openGame_agreeing _ h.maximum
  · rw [currentGame_cons hgame, List.forall_mem_cons] at hspared
    obtain ⟨hthis, hearlier⟩ := hspared
    obtain hagreeing | hupset :=
      htransition.agreeing hdaimon h.maximum h.nested hthis.stake (h.agreeing hearlier)
    · exact hagreeing
    · cases (hevents ▸ hthis.effects).symm.trans hupset

/-- In every run of a house that gives both sides health, the round on a table is lost exactly
if the player's pool is empty, won exactly if only the daimon's is, and in progress exactly if
neither is, as long as no effect of the current game has given the loser of a round blood again
or taken the winner's, and no hand of it was opened with a stake that cannot be taken away. -/
theorem Service.Run.status_agrees (hhealth : 1 ≤ house.rules.basePlayerHealth)
    (hdaimon : ∀ number doubled, 1 ≤ house.rules.daimonHealth number doubled)
    {service : Service} {log : List Grant} (h : service.Run house log) {player : PlayerId}
    {table : Table} {round : Round} (hload : service.store.load player = .ok table)
    (hround : table.round? = some round)
    (hspared : ∀ grant ∈ currentGame (historyOf player log), grant.Spares house.rules) :
    (round.status = .lost ↔ table.player.bloodPool = 0) ∧
    (round.status = .won ↔ round.daimonPool = 0 ∧ 0 < table.player.bloodPool) ∧
    (round.status = .inProgress ↔ 0 < table.player.bloodPool ∧ 0 < round.daimonPool) := by
  have hagrees := Run.holds (fun _ => agrees_new hhealth) (agrees_grant hdaimon) h hload
  exact ((hagrees.agreeing hspared).round round hround).iff

theorem Service.Run.status_agrees_shortRun :
    (∀ number doubled, 1 ≤ smallHouse.rules.daimonHealth number doubled) ∧
      (∀ grant ∈ currentGame (historyOf 1 shortRun.2), grant.Spares smallHouse.rules) ∧
      ∃ table round, shortRun.1.store.load 1 = .ok table ∧ table.round? = some round ∧
        (round.status = .inProgress ↔ 0 < table.player.bloodPool ∧ 0 < round.daimonPool) := by
  have hspared : ∀ grant ∈ currentGame (historyOf 1 shortRun.2),
      grant.Spares smallHouse.rules := by
    have hall : (currentGame (historyOf 1 shortRun.2)).all
        (fun grant => grant.Spares smallHouse.rules) = true := by
      decide +kernel
    simpa using hall
  obtain ⟨table, hload, hround, -⟩ := shortRun_stored
  obtain ⟨round, hround⟩ := Option.isSome_iff_exists.mp hround
  have hagrees :=
    shortRun_run.status_agrees (by decide) smallHouse_daimonHealth hload hround hspared
  exact ⟨smallHouse_daimonHealth, hspared, table, round, hload, hround, hagrees.2.2⟩

namespace Service

/-- The small house with a daimon whose death takes the player's blood as well. -/
def vengefulHouse : House :=
  { smallHouse with
    catalog := {
      daimons := [{
        id := 1
        name := "Mara"
        rune := "m"
        storySequence := 0
        effect := {
          kindId := EffectKind.damageDaimonAndPlayer.id
          bundle := .ofList
            [(.daimonHealth, ⟨-1, .roundStart⟩), (.playerHealth, ⟨-1, .roundStart⟩)] }
        intro := ""
        playerWin := ""
        playerLose := "" }] } }

/-- The round ends with its start: the daimon is killed, which wins the round, and only then
the player. -/
def vengefulRun : Service × List Grant :=
  [.startGame, .startRound].foldl (record 1)
    ((createPlayer { house := vengefulHouse, seed := 7 } "Ada").2, [])

private theorem vengefulRun_run : vengefulRun.1.Run vengefulHouse vengefulRun.2 :=
  Run.recordAll (.playerCreated (.opened 7 0 1) "Ada") 1 _

theorem Run.won_without_blood :
    vengefulHouse.catalog.validate = .ok () ∧
      (∀ number doubled, 1 ≤ vengefulHouse.rules.daimonHealth number doubled) ∧
      vengefulRun.1.Run vengefulHouse vengefulRun.2 ∧
      ∃ table, vengefulRun.1.store.load 1 = .ok table ∧
        table.round?.map Round.status = some .won ∧ table.player.bloodPool = 0 := by
  have hvalid : vengefulHouse.catalog.validate = .ok () := by decide +kernel
  have hstored : (vengefulRun.1.store.load 1).toOption.any (fun table =>
      table.round?.map Round.status = some .won ∧ table.player.bloodPool = 0) = true := by
    decide +kernel
  obtain ⟨table, hload, htable⟩ := exists_of_any_toOption hstored
  exact ⟨hvalid, smallHouse_daimonHealth, vengefulRun_run, table, hload, of_decide_eq_true htable⟩

end Service

end BloodStakes
