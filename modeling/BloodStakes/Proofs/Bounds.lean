import BloodStakes.Proofs.Conservation
import BloodStakes.Proofs.Pots

/-!
Bounds. Whatever effects do to pools, maxima and the pot, every table stays within the bounds
that the store checks, so the store never refuses what a request leaves.
-/
namespace BloodStakes

structure Round.Sound (round : Round) : Prop where
  daimonPool : 0 ≤ round.daimonPool
  daimonPool_le : round.daimonPool ≤ round.daimonMaximum
  ceiling : 0 ≤ round.ceiling
  shoe : round.shoe.Nodup

structure Game.Sound (game : Game) : Prop where
  streak : game.winStreak ≤ game.longestWinStreak
  progress : -1 ≤ game.daimonProgress

/-- All but the pot is within its bounds. Effects and overflowing stakes may do as they like with
the pot without upsetting the rest. -/
structure Table.Level (t : Table) : Prop where
  pool : 0 ≤ t.player.bloodPool
  pool_le : t.player.bloodPool ≤ Changeset.ceilingFor t.player t.round?
  maximum : 0 ≤ t.player.maxBloodPool
  game : ∀ game, t.game? = some game → game.Sound
  round : ∀ round, t.round? = some round → round.Sound

structure Table.Sound (t : Table) : Prop extends t.Level where
  hand : ∀ hand, t.hand? = some hand → 0 ≤ hand.pot

theorem clampedSum_nonneg (pool delta maximum : Int) :
    0 ≤ Session.clampedSum pool delta maximum := by
  unfold Session.clampedSum
  omega

theorem clampedSum_le {pool delta maximum : Int} (h : 0 ≤ maximum) :
    Session.clampedSum pool delta maximum ≤ maximum := by
  unfold Session.clampedSum
  omega

theorem Amount.scale_nonneg (amount : Int) (multiplier : Float) :
    0 ≤ Amount.scale amount multiplier := by
  unfold scale
  dsimp only
  split
  · exact Int.le_max_left _ _
  · exact Int.le_refl 0

theorem Session.ceiling_eq (s : Session) :
    s.ceiling = Changeset.ceilingFor s.table.player s.table.round? := by
  unfold Session.ceiling Changeset.ceilingFor
  cases s.table.round? <;> rfl

theorem Changeset.ceilingFor_congr {player player' : Player}
    (h : player'.maxBloodPool = player.maxBloodPool) (round? : Option Round) :
    ceilingFor player' round? = ceilingFor player round? := by
  unfold ceilingFor
  cases round? with
  | none => exact h
  | some round => rfl

theorem Table.Level.withPlayer {t : Table} (h : t.Level) {player : Player}
    (hmaximum : player.maxBloodPool = t.player.maxBloodPool) (hpool : 0 ≤ player.bloodPool)
    (hle : player.bloodPool ≤ Changeset.ceilingFor t.player t.round?) :
    { t with player }.Level where
  pool := hpool
  pool_le := by rwa [Changeset.ceilingFor_congr hmaximum]
  maximum := hmaximum ▸ h.maximum
  game := h.game
  round := h.round

theorem Table.Level.withRound {t : Table} (h : t.Level) {before round : Round}
    (hbefore : t.round? = some before) (hround : round.Sound)
    (hceiling : round.ceiling = before.ceiling) : { t with round? := some round }.Level where
  pool := h.pool
  pool_le := by
    have hle := h.pool_le
    rw [hbefore] at hle
    exact Int.le_trans hle (Int.le_of_eq hceiling.symm)
  maximum := h.maximum
  game := h.game
  round := by
    rintro _ ⟨⟩
    exact hround

theorem Table.Level.withHand {t : Table} (h : t.Level) (hand? : Option Hand) :
    { t with hand? }.Level where
  pool := h.pool
  pool_le := h.pool_le
  maximum := h.maximum
  game := h.game
  round := h.round

theorem Table.Level.withGame {t : Table} (h : t.Level) {game? : Option Game}
    (hgame : ∀ game, game? = some game → game.Sound) : { t with game? }.Level where
  pool := h.pool
  pool_le := h.pool_le
  maximum := h.maximum
  game := hgame
  round := h.round

theorem Table.Level.ceiling {t : Table} (h : t.Level) :
    0 ≤ Changeset.ceilingFor t.player t.round? :=
  Int.le_trans h.pool h.pool_le

theorem Game.Sound.record {game : Game} (h : game.Sound) (status : HandStatus) :
    (game.record status).Sound := by
  obtain ⟨hstreak, hprogress⟩ := h
  unfold Game.record
  split
  · exact ⟨Nat.le_max_right _ _, hprogress⟩
  · exact ⟨Nat.zero_le _, hprogress⟩

theorem Table.CardsHold.pile_nodup {t : Table} (h : t.CardsHold List.Nodup)
    (hveteran : t.player.tutorialFinished = true)
    (hround : t.round?.any Round.isInProgress = true) : t.pile.Nodup :=
  (List.nodup_append.mp (h hveteran hround)).1

namespace Session

variable {s s' : Session}

theorem settleRound_level (h : s.table.Level) : s.settleRound.table.Level := by
  obtain hsame | ⟨round, status, hround, -, -, hended⟩ := s.settleRound_cases
  · rw [hsame]
    exact h
  · obtain ⟨hpool, hpool', hceiling, hshoe⟩ := h.round round hround
    rw [hended, endRound_table]
    have hlost : ∀ game, (if status = .lost then s.table.game?.map Game.markLost
        else s.table.game?) = some game → game.Sound := by
      intro game hgame
      split at hgame
      · obtain ⟨before, hbefore, rfl⟩ := Option.map_eq_some_iff.mp hgame
        obtain ⟨hstreak, hprogress⟩ := h.game before hbefore
        exact ⟨hstreak, hprogress⟩
      · exact h.game game hgame
    have hfinished :
        { s.table with player := { s.table.player with tutorialFinished := true } }.Level :=
      h.withPlayer rfl h.pool h.pool_le
    have hround' : ({ round with status } : Round).Sound := ⟨hpool, hpool', hceiling, hshoe⟩
    exact (hfinished.withGame hlost).withRound hround hround' rfl

theorem BloodStep.level (h : BloodStep s s') (hs : s.table.Level) : s'.table.Level := by
  cases h with
  | record log => exact hs
  | playerPool delta =>
    apply settleRound_level
    refine hs.withPlayer rfl (clampedSum_nonneg _ _ _) ?_
    rw [s.ceiling_eq]
    exact clampedSum_le hs.ceiling
  | daimonPool delta =>
    unfold changeDaimonPool
    split
    · exact hs
    · next round hround =>
      obtain ⟨hpool, hpool', hceiling, hshoe⟩ := hs.round round hround
      have hmaximum := Int.le_trans hpool hpool'
      apply settleRound_level
      refine hs.withRound hround ?_ rfl
      exact ⟨clampedSum_nonneg _ _ _, clampedSum_le hmaximum, hceiling, hshoe⟩
  | ceiling multiplier round hround =>
    have hscale := Amount.scale_nonneg s.ceiling multiplier
    obtain ⟨hpool, hpool', hmaximum, hshoe⟩ := hs.round round hround
    simp only [scaleCeiling, putCeiling, hround]
    apply settleRound_level
    refine ⟨?_, ?_, hs.maximum, hs.game, ?_⟩
    · exact Int.le_min.mpr ⟨hs.pool, hscale⟩
    · exact Int.min_le_right _ _
    · rintro _ ⟨⟩
      exact ⟨hpool, hpool', hscale, hshoe⟩
  | daimonMaximum multiplier =>
    unfold scaleDaimonMaximum
    split
    · exact hs
    · next round hround =>
      have hscale := Amount.scale_nonneg round.daimonMaximum multiplier
      obtain ⟨hpool, hpool', hceiling, hshoe⟩ := hs.round round hround
      apply settleRound_level
      refine hs.withRound hround ?_ rfl
      exact ⟨Int.le_min.mpr ⟨hpool, hscale⟩, Int.min_le_right _ _, hceiling, hshoe⟩
  | pot delta =>
    unfold changePot
    split
    · exact hs
    · next hand hhand => exact hs.withHand _

theorem Bleeds.level (h : s.Bleeds s') (hs : s.table.Level) : s'.table.Level := by
  induction h with
  | refl => exact hs
  | tail _ step ih => exact step.level ih

theorem Deals.level {side : Side} {count : Nat} {cards : List CardId}
    (h : s.Deals side count cards s') (hround : s.roundInProgress = true)
    (hcards : s.table.CardsHold List.Nodup) (hs : s.table.Level) : s'.table.Level := by
  cases h with
  | @intro t hand hhand hdraws hcount hshort =>
    obtain ⟨round, hround', -⟩ := s.roundInProgress_iff.mp hround
    obtain ⟨hpool, hpool', hceiling, hshoe⟩ := hs.round round hround'
    obtain ⟨shoe, discard, htable⟩ := hdraws.exists_table hround'
    have hshoe' : t.table.shoe.Nodup := by
      refine hdraws.shoe_nodup ?_ (hcards.pile_nodup · hround)
      simpa [Table.shoe, hround'] using hshoe
    rw [htable] at hshoe'
    rw [putHand_table, htable]
    have hdealt : ({ round with shoe, discard } : Round).Sound :=
      ⟨hpool, hpool', hceiling, hshoe'⟩
    exact (hs.withRound hround' hdealt rfl).withHand _

theorem PlaysOn.level (h : s.PlaysOn s') (hcards : s.table.CardsHold List.Nodup)
    (hs : s.table.Level) : s'.table.Level := by
  induction h with
  | refl => exact hs
  | tail hplay step ih =>
    have hcards' := PlaysOn.cardsHold (fun _ _ hperm => hperm.nodup_iff.mpr) hplay hcards
    cases step with
    | flow h => exact h.bleeds.level ih
    | dealt => exact ih
    | drawn => exact ih
    | deal hround hhand hcount h => exact h.level hround hcards' ih

theorem Closes.level {status : HandStatus} (h : s.Closes status s') (hs : s.table.Level) :
    s'.table.Level := by
  cases h with
  | @intro hand _ _ hhand _ _ =>
    refine ⟨hs.pool, ?_, hs.maximum, ?_, ?_⟩
    · have hle := hs.pool_le
      simp only [emit_table, closeHand]
      cases hround : s.table.round? with
      | none => rwa [hround] at hle
      | some round => rwa [hround] at hle
    · intro game hgame
      obtain ⟨before, hbefore, rfl⟩ := Option.map_eq_some_iff.mp hgame
      exact (hs.game before hbefore).record status
    · intro round hround
      obtain ⟨before, hbefore, rfl⟩ := Option.map_eq_some_iff.mp hround
      obtain ⟨hpool, hpool', hceiling, hshoe⟩ := hs.round before hbefore
      exact ⟨hpool, hpool', hceiling, hshoe⟩

theorem Concludes.level (h : s.Concludes s') (hcards : s.table.CardsHold List.Nodup)
    (hs : s.table.Level) : s'.table.Level := by
  obtain ⟨t, status, hplay, -, hclose⟩ := h.closes
  exact hclose.level (hplay.level hcards hs)

end Session

/-- What the bounds of tables rest on: how the house sets health and wagers, and a story that
fits 31 bits. -/
structure House.Bounded (house : House) : Prop where
  story : ∀ daimon ∈ house.catalog.daimons, daimon.storySequence < 2147483648
  playerHealth : 0 ≤ house.rules.basePlayerHealth
  minWager : 0 ≤ house.rules.minWager
  wagerStep : 0 ≤ house.rules.wagerStep
  daimonHealth : ∀ number doubled, 0 ≤ house.rules.daimonHealth number doubled

variable {house : House} {s s' t : Session} {request : Request}

theorem Enters.level (h : Enters house s request t) (hs : s.table.Level) : t.table.Level := by
  cases h with
  | @startHand round stake hround hopen hidle hstake =>
    obtain ⟨hpool, hpool', hceiling, hshoe⟩ := hs.round round hround
    have hopened : ({ round with handsPlayed := round.handsPlayed + 1 } : Round).Sound :=
      ⟨hpool, hpool', hceiling, hshoe⟩
    exact (hs.withRound hround hopened rfl).withHand _
  | move hmove hround hhand => exact hs
  | equipToken hplayer hround hhand =>
    obtain ⟨loadout, rfl⟩ := Player.equipToken_eq_ok hplayer
    exact hs.withPlayer rfl hs.pool hs.pool_le

theorem Catalog.nextDaimon_sound {game game' : Game} {progression : Nat} {rng rng' : Rng}
    {daimon : Daimon} (hhouse : house.Bounded)
    (h : house.catalog.nextDaimon progression game rng = some (daimon, game', rng'))
    (hgame : game.Sound) : game'.Sound := by
  obtain rfl | ⟨hdaimon, hsequence, rfl⟩ := Catalog.nextDaimon_game h
  · exact hgame
  · have hsmall := hhouse.story daimon hdaimon
    have hsame := (Catalog.bmod_eq_iff progression).mpr (by omega)
    refine ⟨hgame.streak, ?_⟩
    dsimp only
    omega

theorem Session.openGame_level (hs : s.table.Level) : s.openGame.table.Level := by
  refine ⟨hs.maximum, Int.le_refl _, hs.maximum, ?_, nofun⟩
  rintro _ ⟨⟩
  exact ⟨Nat.le_refl 0, Int.le_refl _⟩

theorem Session.openRound_level {daimon : Daimon} {game : Game} (hhouse : house.Bounded)
    (hgame : game.Sound) (hs : s.table.Level) :
    (s.openRound house.rules daimon game).table.Level := by
  have hhealth := hhouse.daimonHealth (game.roundsPlayed + 1) daimon.doubleHealth
  refine ⟨Int.le_min.mpr ⟨hs.pool, hs.maximum⟩, Int.min_le_right _ _, hs.maximum, ?_, ?_⟩
  · rintro _ ⟨⟩
    exact ⟨hgame.streak, hgame.progress⟩
  · rintro _ ⟨⟩
    exact ⟨hhealth, Int.le_refl _, hs.maximum, List.nodup_nil⟩

theorem Session.fillShoe_level {round : Round} {shoe : List CardId}
    (hround : s.table.round? = some round) (hshoe : shoe.Nodup) (hs : s.table.Level) :
    (s.fillShoe round shoe).table.Level := by
  obtain ⟨hpool, hpool', hceiling, -⟩ := hs.round round hround
  exact hs.withRound hround ⟨hpool, hpool', hceiling, hshoe⟩ rfl

theorem Transition.level (h : Transition house s request s') (hhouse : house.Bounded)
    (hdeck : s.table.player.deck.Nodup) (hcards : s.table.CardsHold List.Nodup)
    (hs : s.table.Level) : s'.table.Level := by
  cases h with
  | startGame hidle => exact Session.openGame_level hs
  | @startRound game game' daimon rng rng' round shoe t _ hidle hgame hopen hdaimon ht hround
      hshoe hfire =>
    have hgame' := Catalog.nextDaimon_sound hhouse hdaimon (hs.game game hgame)
    have ht' : t.table.Level := by
      rw [ht]
      exact Session.openRound_level hhouse hgame' hs
    have hnodup : shoe.Nodup := by
      split at hshoe
      · exact hshoe.nodup_iff.mpr hdeck
      · rw [hshoe]
        exact Session.tutorialDeck_nodup
    refine hfire.bleeds.level ?_
    exact Session.fillShoe_level hround hnodup ht'
  | closed henter hbegin h =>
    have hcards' := hbegin.bleeds.cardsHold (henter.cardsHold hcards)
    exact h.level hcards' (hbegin.bleeds.level (henter.level hs))
  | opened henter hbegin hgoing hdeal =>
    have hcards' := hbegin.bleeds.cardsHold (henter.cardsHold hcards)
    exact (henter.playsOn_opened hbegin hgoing hdeal).level hcards'
      (hbegin.bleeds.level (henter.level hs))
  | drawn henter hdeal hhand hranks hbust hfire hgoing =>
    exact (henter.playsOn_drawn hdeal hfire).level hcards hs
  | equipped hplayer hfire hidle hgoing =>
    obtain ⟨loadout, rfl⟩ := Player.equipToken_eq_ok hplayer
    exact hfire.bleeds.level (hs.withPlayer rfl hs.pool hs.pool_le)
  | deckAssigned hranks hplayer =>
    obtain ⟨-, rfl⟩ := Player.assignDeck_eq_ok hplayer
    exact hs.withPlayer rfl hs.pool hs.pool_le
  | @rewardClaimed round _ hround hwon hclaim h =>
    obtain ⟨hpool, hpool', hceiling, hshoe⟩ := hs.round round hround
    have hclaimed : ({ s.table with round? := some { round with rewardClaimed := true } } :
        Table).Level := hs.withRound hround ⟨hpool, hpool', hceiling, hshoe⟩ rfl
    obtain ⟨tokens, progression, htable⟩ := Session.claimed_table h
    rw [htable]
    exact hclaimed.withPlayer rfl hclaimed.pool hclaimed.pool_le

theorem Round.Sound.check {round : Round} (h : round.Sound) : round.check = .ok () := by
  obtain ⟨hpool, hpool', hceiling, hshoe⟩ := h
  unfold Round.check
  rw [Deck.firstRepeat?_nil.mpr hshoe]
  dsimp only
  rw [if_neg (by omega), if_neg (by omega)]

theorem Game.Sound.check {game : Game} (h : game.Sound) : game.check = .ok () := by
  obtain ⟨hstreak, hprogress⟩ := h
  unfold Game.check
  rw [if_neg (by omega), if_neg (by omega)]

theorem Table.Level.checkWithin {t : Table} (h : t.Level) :
    t.player.checkWithin (Changeset.ceilingFor t.player t.round?) = .ok () := by
  have hpool := h.pool
  have hle := h.pool_le
  have hmaximum := h.maximum
  unfold Player.checkWithin
  rw [if_neg (by omega), if_neg (by omega), if_neg (by omega)]

theorem Changeset.checkPut_ofTouched {α : Type} {check : α → Except Violation Unit}
    (touched : Bool) (value? : Option α) (h : ∀ value, value? = some value → check value = .ok ()) :
    checkPut check (.ofTouched touched value?) = .ok () := by
  unfold checkPut Change.ofTouched
  cases touched with
  | false => rfl
  | true =>
    cases value? with
    | none => rfl
    | some value => exact h value rfl

theorem Session.Tracks.validate_changes {loaded : Table} (h : s.Tracks loaded)
    (hs : s.table.Sound) : s.changes.validate loaded.round? = .ok () := by
  have hhand (hand : Hand) (hhand : s.table.hand? = some hand) : hand.check = .ok () := by
    have hpot := hs.hand hand hhand
    unfold Hand.check
    rw [if_neg (by omega)]
  have hround := Change.apply_ofTouched _ _ _ h.round
  have hgame := Changeset.checkPut_ofTouched s.touched.game _ fun game h => (hs.game game h).check
  have hround' := Changeset.checkPut_ofTouched s.touched.round _ fun round h =>
    (hs.round round h).check
  have hhand' := Changeset.checkPut_ofTouched s.touched.hand _ hhand
  unfold Changeset.validate Session.changes
  dsimp only
  rw [hround, hgame, hround', hhand']
  cases s.touched.player with
  | false => rfl
  | true =>
    simp only [↓reduceIte]
    rw [hs.checkWithin]
    rfl

theorem Player.IsNew.sound {rules : Rules} {player : Player} (h : player.IsNew rules)
    (hhealth : 0 ≤ rules.basePlayerHealth) : ({ player } : Table).Sound := by
  obtain ⟨id, username, isGuest, rfl⟩ := h
  exact { pool := hhealth, pool_le := Int.le_refl _, maximum := hhealth, game := nofun,
          round := nofun, hand := nofun }

/-- A table is within its bounds, and no card is doubled on it. -/
structure Table.Bounded (t : Table) : Prop where
  sound : t.Sound
  deck : t.player.deck.Nodup
  cards : t.CardsHold List.Nodup

theorem bounded_new (hhouse : house.Bounded) {player : Player} (h : player.IsNew house.rules) :
    ({ player } : Table).Bounded := by
  refine ⟨h.sound hhouse.playerHealth, ?_, nofun⟩
  rw [h.deck]
  exact starterDeck_nodup

theorem Transition.bounded (h : Transition house s request s') (hhouse : house.Bounded)
    (hs : s.table.Bounded) (hsolvent : s'.table.Solvent) : s'.table.Bounded where
  sound := ⟨h.level hhouse hs.deck hs.cards hs.sound.toLevel, hsolvent⟩
  deck := h.deck_holds hs.deck fun _ _ hnodup => hnodup
  cards := h.cardsHold (fun _ _ hperm => hperm.nodup_iff.mpr) hs.deck hs.cards

private theorem bounded_grant (hhouse : house.Bounded) (grant : Grant) (h : grant.before.Bounded)
    (hgrant : grant.Holds house) : grant.report.table.Bounded := by
  have hsolvent := hgrant.solvent h.sound.hand
  obtain ⟨rng, s', htransition, htable⟩ := hgrant.transition
  rw [htable] at hsolvent ⊢
  exact htransition.bounded hhouse h hsolvent

theorem Session.Tracks.exists_persist {loaded : Table} {store : Store} (h : s.Tracks loaded)
    (hs : s.table.Sound) (hload : store.load s.table.player.id = .ok loaded) :
    ∃ stored, s.persist store = .ok stored := by
  unfold Session.persist
  split
  · exact ⟨_, rfl⟩
  · have hvalid := h.validate_changes hs
    rw [Store.commit_eq_ok.mpr ⟨loaded, Store.load_eq_ok.mp hload, hvalid, rfl⟩]
    exact ⟨_, rfl⟩

theorem Service.exists_persist {service : Service} {player : PlayerId} {before : Table}
    {rng : Rng} {reply : Reply} (hhouse : service.house.Bounded) (hfiled : service.store.Filed)
    (hload : service.store.load player = .ok before) (hbefore : before.Bounded)
    (hfits : request = .startHand → before.StakeFits service.house.rules)
    (hrun : (request.play service.house).run { table := before, rng } = .ok reply s') :
    ∃ stored, s'.persist service.store = .ok stored := by
  have htracks := (Session.tracks_opened before rng).of_run (Play.request_leads request) hrun
  have htransition := Play.request_transition hrun
  have hsolvent := htransition.solvent hhouse.minWager hhouse.wagerStep hfits hbefore.sound.hand
  have hid : s'.table.player.id = player :=
    (congrArg Prod.fst htransition.lasting.1).trans (hfiled player before hload)
  exact htracks.exists_persist (htransition.bounded hhouse hbefore hsolvent).sound (hid ▸ hload)

/-- The store never finds fault with what a request leaves on a bounded table, unless the stake
of a new hand overflows. -/
theorem Service.perform_ne_invalid {service : Service} {player : PlayerId}
    (hhouse : service.house.Bounded) (hfiled : service.store.Filed)
    (hstored : ∀ table, service.store.load player = .ok table → table.Bounded)
    (request : Request)
    (hfits : request = .startHand → ∀ table, service.store.load player = .ok table →
      table.StakeFits service.house.rules) (violation : Violation) :
    (service.perform player request).1 ≠ .error (.store (.invalid violation)) := by
  intro hinvalid
  cases hperform : service.perform player request with
  | mk result after =>
    rw [hperform] at hinvalid
    dsimp only at hinvalid
    rw [hinvalid] at hperform
    obtain ⟨e, hload, he⟩ | ⟨before, rng, s', hload, hrun⟩ |
      ⟨before, rng, s', reply, e, hload, hrun, hpersist, he⟩ := perform_error_cases hperform
    · cases he
      unfold Store.load at hload
      split at hload <;> cases hload
    · have hrefusal := (Play.request_leads request).refusal _ _ hrun
      cases hrefusal
    · obtain ⟨stored, hok⟩ := exists_persist hhouse hfiled hload (hstored before hload)
        (hfits · before hload) hrun
      cases hpersist.symm.trans hok

theorem Service.addPlayer_ne_invalid {service : Service} {player : PlayerId → Player}
    (h : ∀ id, (player id).IsNew service.house.rules) (hhouse : service.house.Bounded)
    (violation : Violation) :
    (service.addPlayer player).1 ≠ .error (.store (.invalid violation)) := by
  have hcheck : (player service.nextPlayer).check = .ok () :=
    ((h service.nextPlayer).sound hhouse.playerHealth).checkWithin
  simp only [addPlayer, Store.insertPlayer, hcheck]
  by_cases htaken : service.store.tables.contains (player service.nextPlayer).id = true
  · rw [if_pos htaken]
    exact fun h => by cases h
  · rw [if_neg htaken]
    exact fun h => by cases h

/-- In every run of a bounded house all stored tables are within their bounds, and neither a
request nor the arrival of a player fails by a check of the store, but for a hand whose stake
overflows. -/
theorem Service.Run.stays_in_bounds {service : Service} {log : List Grant}
    (h : service.Run house log) (hhouse : house.Bounded) :
    (∀ player table, service.store.load player = .ok table → table.Sound) ∧
    (∀ player request violation,
      (request = .startHand → ∀ table, service.store.load player = .ok table →
        table.StakeFits house.rules) →
      (service.perform player request).1 ≠ .error (.store (.invalid violation))) ∧
    (∀ username violation,
      (service.createPlayer username).1 ≠ .error (.store (.invalid violation))) ∧
    ∀ time violation,
      (service.createGuest time).1 ≠ .error (.store (.invalid violation)) := by
  have hstored {player : PlayerId} {table : Table} (hload : service.store.load player = .ok table) :
      table.Bounded :=
    Run.holds (P := fun _ t => t.Bounded) (fun _ => bounded_new hhouse)
      (fun _ grant => bounded_grant hhouse grant) h hload
  have hhouse' : service.house.Bounded := h.house_eq ▸ hhouse
  refine ⟨fun _ _ hload => (hstored hload).sound, ?_, ?_, ?_⟩
  · intro player request violation hfits
    refine perform_ne_invalid hhouse' h.filed (fun _ => hstored) request ?_ violation
    rw [h.house_eq]
    exact hfits
  · intro username violation
    exact addPlayer_ne_invalid (fun id => Player.isNew_ofStarter id username _) hhouse' violation
  · intro time violation
    exact addPlayer_ne_invalid (fun id => Player.isNew_guest id time _) hhouse' violation

private theorem squaringPower_one (n fuel : Nat) : squaringPower 1 1 n fuel = 1 := by
  have hone : (1 : Float) * 1 = 1 := rfl
  induction fuel generalizing n with
  | zero => rfl
  | succ fuel ih =>
    unfold squaringPower
    simp only [hone, ite_self]
    split
    · rfl
    · exact ih _

theorem floatPower_one (n : Int) : floatPower 1 n = 1 := by
  unfold floatPower
  rw [squaringPower_one]
  split <;> rfl

theorem Service.smallHouse_daimonHealth (number : Nat) (doubled : Bool) :
    1 ≤ smallHouse.rules.daimonHealth number doubled := by
  have hfactor : smallHouse.rules.daimonScalingFactor = 1 := rfl
  unfold Rules.daimonHealth
  simp only [hfactor, floatPower_one]
  cases doubled <;> decide +kernel

theorem smallHouse_bounded : Service.smallHouse.Bounded where
  story := by decide
  playerHealth := by decide
  minWager := by decide
  wagerStep := by decide
  daimonHealth number doubled := Int.le_of_lt (Service.smallHouse_daimonHealth number doubled)

theorem Service.Run.stays_in_bounds_shortRun :
    smallHouse.Bounded ∧ ∃ table, shortRun.1.store.load 1 = .ok table ∧ table.Sound := by
  obtain ⟨table, hload, -⟩ := shortRun_stored
  obtain ⟨hsound, -⟩ := shortRun_run.stays_in_bounds smallHouse_bounded
  exact ⟨smallHouse_bounded, table, hload, hsound 1 table hload⟩

end BloodStakes
