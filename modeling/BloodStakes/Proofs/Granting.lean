import BloodStakes.Proofs.Transition

/-! The plays make transitions: whatever a request is granted, it is one of the few things
that requests may do. -/
namespace BloodStakes

namespace Play

open Session

variable {s s' : Session} {house : House}

theorem finishHand_closes {status status' : HandStatus}
    (h : (finishHand status).run s = .ok status' s') :
    status' = status ∧ s.Closes status s' := by
  simp only [finishHand, bind_eq_ok, hand_eq_ok, ranks_eq_ok, modify_eq_ok, pure_eq_ok,
    and_assoc, exists_and_left, exists_eq_left, exists_const] at h
  obtain ⟨current, hcurrent, playerRanks, hplayer, daimonRanks, hdaimon, rfl, rfl⟩ := h
  exact ⟨rfl, .intro hcurrent hplayer hdaimon⟩

theorem finishHand_finishes {t : Session} {status status' : HandStatus} (hend : t.Ends status s)
    (h : (finishHand status).run s = .ok status' s') : t.Finishes status' s' := by
  obtain ⟨rfl, hclose⟩ := finishHand_closes h
  exact ⟨s, hend, hclose⟩

theorem closeByRound_finishes {status : HandStatus} (hover : s.roundTerminal = true)
    (h : closeByRound.run s = .ok status s') : s.Finishes status s' := by
  simp only [closeByRound, bind_eq_ok, get_eq_ok, and_assoc, exists_and_left,
    exists_eq_left] at h
  exact finishHand_finishes (.byRound hover) h

theorem unlessOver_cases {next : Play HandStatus} {status : HandStatus}
    (h : (unlessOver next).run s = .ok status s') :
    s.Finishes status s' ∨ s.roundTerminal = false ∧ next.run s = .ok status s' := by
  simp only [unlessOver, bind_eq_ok, get_eq_ok, and_assoc, exists_and_left, exists_eq_left] at h
  split at h
  · next hover => exact .inl (closeByRound_finishes hover h)
  · next hgoing => exact .inr ⟨Bool.eq_false_iff.mpr hgoing, h⟩

private theorem settle_finishes {outcome : Outcome} {status : HandStatus}
    (h : (settle house.catalog outcome).run s = .ok status s') :
    (s.fireTable house.catalog outcome.phase).1.Finishes status s' := by
  simp only [settle, bind_eq_ok, get_eq_ok, refuseIf_eq_ok, modify_eq_ok, and_assoc,
    exists_and_left, exists_eq_left, exists_const] at h
  obtain ⟨-, h⟩ := h
  obtain h | ⟨hgoing, h⟩ := unlessOver_cases h
  · exact h
  · simp only [bind_eq_ok, hand_eq_ok, modify_eq_ok, and_assoc, exists_and_left,
      exists_eq_left, exists_const] at h
    obtain ⟨current, hcurrent, h⟩ := h
    exact finishHand_finishes (.payout outcome hcurrent hgoing) h

theorem resolve_finishes {status : HandStatus}
    (h : (resolve house.catalog).run s = .ok status s') :
    ∃ hand player daimon, s.table.hand? = some hand ∧ ranksOf hand.playerCards = .ok player ∧
      ranksOf hand.daimonCards = .ok daimon ∧
      (s.fireTable house.catalog (Outcome.ofHands player daimon).phase).1.Finishes status s' := by
  simp only [resolve, bind_eq_ok, hand_eq_ok, ranks_eq_ok, and_assoc, exists_and_left,
    exists_eq_left] at h
  obtain ⟨hand, hhand, player, hplayer, daimon, hdaimon, h⟩ := h
  exact ⟨hand, player, daimon, hhand, hplayer, hdaimon, settle_finishes h⟩

theorem resolve_concludes {status : HandStatus}
    (h : (resolve house.catalog).run s = .ok status s') : s.Concludes s' := by
  obtain ⟨_, _, _, -, -, -, h⟩ := resolve_finishes h
  exact h.concludes (s.fireTable_flows house.catalog _).playsOn

/-- The opening deal leaves the hand open, or the round ends, or a natural settles the hand. -/
theorem dealHand_cases {status : HandStatus} (hround : s.roundInProgress = true)
    (hhand : s.handInProgress = true) (hheld : s.table.heldCards = [])
    (h : (dealHand house).run s = .ok status s') :
    s.Concludes s' ∨ s.OpeningDeal s' := by
  simp only [dealHand, bind_eq_ok, hand_eq_ok, modify_eq_ok, and_assoc, exists_and_left,
    exists_eq_left, exists_const] at h
  obtain ⟨cards, t, hplayer, more, u, hdaimon, dealt, hdealt, h⟩ := h
  have hplayer := deal_deals hplayer
  have hdaimon := deal_deals hdaimon
  have hround' := hplayer.roundInProgress hround
  have hhand' := (handInProgress_of_steady hplayer.steady).trans hhand
  have hfire := (u.emit (.handDealt dealt.pot dealt.playerCards dealt.daimonCards)).fireTable_flows
    house.catalog .handStart
  have hfirst : s.HandStep t := .deal hround hhand (.inr ⟨rfl, hheld⟩) hplayer
  have hdeals : s.PlaysOn (u.emit (.handDealt dealt.pot dealt.playerCards dealt.daimonCards)) :=
    .tail (.tail (.single hfirst) (.deal hround' hhand' (.inl rfl) hdaimon)) (.dealt u _ _ _)
  have hplay := hdeals.trans hfire.playsOn
  obtain h | ⟨hgoing, h⟩ := unlessOver_cases h
  · exact .inl (h.concludes hplay)
  · simp only [bind_eq_ok, hand_eq_ok, ranks_eq_ok, and_assoc, exists_and_left,
      exists_eq_left] at h
    obtain ⟨current, hcurrent, ranks, hranks, h⟩ := h
    have hround'' := hfire.bleeds.roundInProgress (hdaimon.roundInProgress hround') hgoing
    have hsteady := hfire.bleeds.steady.trans hdaimon.steady
    have hhand'' := (handInProgress_of_steady hsteady).trans hhand'
    split at h
    · obtain ⟨last, v, hlast, h⟩ := bind_eq_ok.mp h
      have hlast := deal_deals hlast
      exact .inl ((resolve_concludes h).after
        (hplay.tail (.deal hround'' hhand'' (.inl rfl) hlast)))
    · next hnatural =>
      obtain ⟨-, rfl⟩ := pure_eq_ok.mp h
      -- effects leave the cards of the hand alone
      have hcards : current.playerCards = dealt.playerCards := by
        have hhand := hfire.bleeds.hand?
        rw [hcurrent, emit_table, hdealt] at hhand
        simp only [Option.map_some, Option.some.injEq, Hand.mk.injEq] at hhand
        exact hhand.2.1
      rw [hcards] at hranks
      exact .inr (.intro hheld hplayer hdaimon hdealt hfire hgoing hranks
        (Bool.eq_false_iff.mpr hnatural))

theorem forfeit_roundTerminal (h : s.roundInProgress = true) :
    (s.changePlayerPool (-s.table.player.bloodPool)).roundTerminal = true := by
  obtain ⟨round, hround, hopen⟩ := s.roundInProgress_iff.mp h
  have hempty : clampedSum s.table.player.bloodPool (-s.table.player.bloodPool) s.ceiling = 0 := by
    unfold clampedSum
    omega
  unfold changePlayerPool settleRound
  simp only [putPlayer_table, hround, hempty, Round.isTerminal, hopen]
  simp [roundTerminal, endRound_table, Round.isTerminal, Round.isInProgress]

theorem startHand_transition {status : HandStatus}
    (h : (startHand house).run s = .ok status s') : Transition house s .startHand s' := by
  simp only [startHand, bind_eq_ok, get_eq_ok, and_assoc, exists_and_left, exists_eq_left] at h
  split at h
  · exact absurd h throw_ne_ok
  · next round hround =>
    simp only [wager, bind_eq_ok, get_eq_ok, refuseIf_eq_ok, round_eq_ok, modify_eq_ok,
      pure_eq_ok, and_assoc, exists_and_left, exists_eq_left, exists_const] at h
    obtain ⟨hopen, hidle, stake, _, ⟨_, hround', hstake, rfl⟩, h⟩ := h
    cases hround.symm.trans hround'
    have hopen : round.isInProgress = true := by simpa [Round.isTerminal] using hopen
    have henter : Enters house s .startHand (s.openHand round stake) :=
      .startHand hround hopen hidle hstake
    split at h
    · simp only [bind_eq_ok, modify_eq_ok, exists_eq_left, exists_const] at h
      have hover := forfeit_roundTerminal henter.roundInProgress
      exact .closed henter (.forfeit henter.roundInProgress)
        ((closeByRound_finishes hover h).concludes .refl)
    · simp only [bind_eq_ok, modify_eq_ok, exists_eq_left, exists_const] at h
      have hbegin : (s.openHand round stake).Begins house.rules .startHand _ :=
        .stakes henter.roundInProgress rfl hstake
      obtain h | ⟨hgoing, h⟩ := unlessOver_cases h
      · exact .closed henter hbegin (h.concludes .refl)
      · obtain ⟨hround, hhand⟩ := henter.open_of_begins hbegin hgoing
        have hheld := hbegin.bleeds.heldCards
        obtain h | h := dealHand_cases hround hhand hheld h
        · exact .closed henter hbegin h
        · exact .opened henter hbegin hgoing h

theorem inProgress_of_available {move : Move} (h : move ∈ s.availableMoves) :
    s.handInProgress = true ∧ s.roundInProgress = true := by
  unfold availableMoves at h
  split at h
  · next hand round hhand hround =>
    split at h
    · next hopen =>
      exact ⟨s.handInProgress_iff.mpr ⟨hand, hhand, hopen.1⟩,
        s.roundInProgress_iff.mpr ⟨round, hround, hopen.2⟩⟩
    · cases h
  · cases h

theorem ensureAvailable_eq_ok {move : Move} {u : Unit}
    (h : (ensureAvailable move).run s = .ok u s') :
    s' = s ∧ s.handInProgress = true ∧ s.roundInProgress = true := by
  simp only [ensureAvailable, bind_eq_ok, get_eq_ok, refuseIf_eq_ok, and_assoc, exists_and_left,
    exists_eq_left, exists_const] at h
  obtain ⟨-, hmove, rfl⟩ := h
  exact ⟨rfl, inProgress_of_available (by simpa using hmove)⟩

theorem drawToStand_playsOn {rules : Rules} {fuel : Nat} {u : Unit}
    (hround : s.roundInProgress = true) (hhand : s.handInProgress = true)
    (h : (drawToStand rules fuel).run s = .ok u s') : s.PlaysOn s' := by
  induction fuel generalizing s with
  | zero =>
    obtain ⟨-, rfl⟩ := pure_eq_ok.mp h
    exact .refl
  | succ fuel ih =>
    simp only [drawToStand, bind_eq_ok, hand_eq_ok, ranks_eq_ok, and_assoc, exists_and_left,
      exists_eq_left] at h
    obtain ⟨current, -, ranks, -, h⟩ := h
    split at h
    · obtain ⟨-, rfl⟩ := pure_eq_ok.mp h
      exact .refl
    · obtain ⟨cards, t, hdeal, h⟩ := bind_eq_ok.mp h
      have hdeal := deal_deals hdeal
      have hstep : s.PlaysOn t := .single (.deal hround hhand (.inl rfl) hdeal)
      split at h
      · obtain ⟨-, rfl⟩ := pure_eq_ok.mp h
        exact hstep
      · have hround' := hdeal.roundInProgress hround
        have hhand' := (handInProgress_of_steady hdeal.steady).trans hhand
        exact hstep.trans (ih hround' hhand' h)

theorem drawBound_eq_ok {fuel : Nat} (h : drawBound.run s = .ok fuel s') : s' = s := by
  simp only [drawBound, bind_eq_ok, get_eq_ok, and_assoc, exists_and_left, exists_eq_left] at h
  split at h <;> exact (pure_eq_ok.mp h).2.symm

private theorem stand_transition {status : HandStatus} (h : (stand house).run s = .ok status s') :
    Transition house s .stand s' := by
  obtain ⟨_, t, havailable, hstand⟩ := bind_eq_ok.mp h
  obtain ⟨rfl, hhand, hround⟩ := ensureAvailable_eq_ok havailable
  obtain ⟨fuel, u, hbound, hstand⟩ := bind_eq_ok.mp hstand
  obtain ⟨_, v, hdraws, hresolve⟩ := bind_eq_ok.mp hstand
  have hsame : u = t := drawBound_eq_ok hbound
  rw [hsame] at hdraws
  have hplay := drawToStand_playsOn hround hhand hdraws
  exact .closed (.move (.inr (.inl rfl)) hround hhand) (.move nofun)
    ((resolve_concludes hresolve).after hplay)

theorem surrender_finishes {status : HandStatus}
    (h : (surrender house).run s = .ok status s') :
    s.handInProgress = true ∧ s.roundInProgress = true ∧
      (s.fireTable house.catalog .onLoss).1.Finishes status s' := by
  obtain ⟨_, t, havailable, hsurrender⟩ := bind_eq_ok.mp h
  obtain ⟨rfl, hhand, hround⟩ := ensureAvailable_eq_ok havailable
  refine ⟨hhand, hround, ?_⟩
  simp only [bind_eq_ok, modify_eq_ok, exists_eq_left, exists_const] at hsurrender
  obtain hclose | ⟨hgoing, hclose⟩ := unlessOver_cases hsurrender
  · exact hclose
  · simp only [bind_eq_ok, hand_eq_ok, modify_eq_ok, and_assoc, exists_and_left,
      exists_eq_left, exists_const] at hclose
    obtain ⟨current, hcurrent, hclose⟩ := hclose
    exact finishHand_finishes (.refund hcurrent hgoing) hclose

private theorem surrender_transition {status : HandStatus}
    (h : (surrender house).run s = .ok status s') : Transition house s .surrender s' := by
  obtain ⟨hhand, hround, hfinish⟩ := surrender_finishes h
  exact .closed (.move (.inr (.inr rfl)) hround hhand) (.move nofun)
    (hfinish.concludes (s.fireTable_flows house.catalog .onLoss).playsOn)

private theorem draw_transition {card : CardId} (h : (draw house).run s = .ok card s') :
    Transition house s .draw s' := by
  obtain ⟨_, t, havailable, hdraw⟩ := bind_eq_ok.mp h
  obtain ⟨rfl, hhand, hround⟩ := ensureAvailable_eq_ok havailable
  have henter : Enters house t .draw t := .move (.inl rfl) hround hhand
  obtain ⟨cards, u, hdeal, hdraw⟩ := bind_eq_ok.mp hdraw
  have hdeal := deal_deals hdeal
  split at hdraw
  · exact absurd hdraw throw_ne_ok
  · next first _ _ =>
    simp only [bind_eq_ok, hand_eq_ok, ranks_eq_ok, modify_eq_ok, get_eq_ok, and_assoc,
      exists_and_left, exists_eq_left, exists_const] at hdraw
    obtain ⟨hand, hcurrent, ranks, hranks, hdraw⟩ := hdraw
    have hfire := fireCards_flows .handStart [first]
      (u.emit (.cardDrawn first (Score.total ranks)))
    have hplay : t.PlaysOn (u.emit (.cardDrawn first (Score.total ranks))) :=
      .tail (.single (.deal hround hhand (.inl rfl) hdeal)) (.drawn u _ _)
    have hplay := hplay.trans hfire.playsOn
    split at hdraw
    · next hover =>
      simp only [bind_eq_ok, pure_eq_ok] at hdraw
      obtain ⟨_, _, hclose, -, rfl⟩ := hdraw
      exact .closed henter (.move nofun) ((closeByRound_finishes hover hclose).concludes hplay)
    · next hgoing =>
      split at hdraw
      · simp only [bind_eq_ok, pure_eq_ok] at hdraw
        obtain ⟨_, _, hclose, -, rfl⟩ := hdraw
        exact .closed henter (.move nofun) ((resolve_concludes hclose).after hplay)
      · next hbust =>
        obtain ⟨-, rfl⟩ := pure_eq_ok.mp hdraw
        exact .drawn henter hdeal hcurrent hranks (Bool.eq_false_iff.mpr hbust) hfire
          (Bool.eq_false_iff.mpr hgoing)

theorem doubleDown_ne_ok {status : HandStatus} : doubleDown.run s ≠ .ok status s' := by
  intro h
  obtain ⟨_, _, -, h⟩ := bind_eq_ok.mp h
  obtain ⟨_, _, -, h⟩ := bind_eq_ok.mp h
  exact throw_ne_ok h

private theorem equipToken_transition {slot : SlotId} {token : TokenId} {logs : List EffectLog}
    (h : (equipToken house slot token).run s = .ok logs s') :
    Transition house s (.equipToken slot token) s' := by
  simp only [equipToken, bind_eq_ok, get_eq_ok, refuseIf_eq_ok, and_assoc, exists_and_left,
    exists_eq_left, exists_const] at h
  obtain ⟨-, h⟩ := h
  split at h
  · exact absurd h throw_ne_ok
  · next place hplace =>
    simp only [bind_eq_ok, get_eq_ok, ofExcept_eq_ok, modify_eq_ok, and_assoc, exists_and_left,
      exists_eq_left, exists_const] at h
    obtain ⟨player, hplayer, h⟩ := h
    split at h
    · next hround =>
      simp only [bind_eq_ok, get_eq_ok, ofStep_eq_ok, and_assoc, exists_and_left,
        exists_eq_left] at h
      obtain ⟨_, t, hfire, h⟩ := h
      have hflows := fireSlot_flows (s.putPlayer player) house.catalog token place.slotType
        .onEquip
      rw [hfire] at hflows
      split at h
      · next hover =>
        simp only [bind_eq_ok, pure_eq_ok] at h
        obtain ⟨_, _, hclose, -, rfl⟩ := h
        have hhand := (handInProgress_of_steady hflows.bleeds.steady).symm.trans hover.2
        exact .closed (.equipToken hplayer hround hhand) (.move nofun)
          ((closeByRound_finishes hover.1 hclose).concludes hflows.playsOn)
      · next hgoing =>
        obtain ⟨-, rfl⟩ := pure_eq_ok.mp h
        refine .equipped hplayer hflows ?_ ?_
        · exact fun hidle => absurd hround (Bool.eq_false_iff.mp hidle)
        · exact fun hhand _ => Bool.eq_false_iff.mpr fun hover => hgoing ⟨hover, hhand⟩
    · next hround =>
      obtain ⟨-, rfl⟩ := pure_eq_ok.mp h
      exact .equipped hplayer .refl (fun _ => rfl) fun _ hround' => absurd hround' hround

private theorem assignDeck_transition {cards : List CardId} {u : Unit}
    (h : (assignDeck house.rules cards).run s = .ok u s') :
    Transition house s (.assignDeck cards) s' := by
  simp only [assignDeck, bind_eq_ok, get_eq_ok, ranks_eq_ok, ofExcept_eq_ok, modify_eq_ok,
    and_assoc, exists_and_left, exists_eq_left] at h
  obtain ⟨ranks, hranks, player, hplayer, rfl⟩ := h
  exact .deckAssigned hranks hplayer

theorem claimStoryToken_cases {catalog : Catalog} {token? : Option TokenId}
    (h : (claimStoryToken catalog).run s = .ok token? s') :
    ∃ round, s.table.round? = some round ∧ round.status = .won ∧ round.rewardClaimed = false ∧
      (token? = none ∧ s' = s.putRound { round with rewardClaimed := true } ∨
        ∃ token, catalog.storyToken? s.table.player.storyProgression = some token ∧
          token? = some token.id ∧
          s' = (s.putRound { round with rewardClaimed := true }).grantStoryToken token.id) := by
  simp only [claimStoryToken, bind_eq_ok, get_eq_ok, round_eq_ok, refuseIf_eq_ok, modify_eq_ok,
    and_assoc, exists_and_left, exists_eq_left, exists_const] at h
  obtain ⟨round, hround, hwon, hclaim, h⟩ := h
  refine ⟨round, hround, by simpa using hwon, hclaim, ?_⟩
  split at h
  · obtain ⟨rfl, rfl⟩ := pure_eq_ok.mp h
    exact .inl ⟨rfl, rfl⟩
  · next token htoken =>
    simp only [bind_eq_ok, modify_eq_ok, pure_eq_ok, exists_const] at h
    obtain ⟨_, rfl, rfl, rfl⟩ := h
    exact .inr ⟨token, htoken, rfl, rfl⟩

private theorem claimStoryToken_transition {token? : Option TokenId}
    (h : (claimStoryToken house.catalog).run s = .ok token? s') :
    Transition house s .claimStoryToken s' := by
  obtain ⟨round, hround, hwon, hclaim, ⟨-, h⟩ | ⟨token, htoken, -, h⟩⟩ := claimStoryToken_cases h
  · exact .rewardClaimed hround hwon hclaim (.inl h)
  · exact .rewardClaimed hround hwon hclaim (.inr ⟨token, htoken, h⟩)

theorem startGame_transition {u : Unit} (h : startGame.run s = .ok u s') :
    Transition house s .startGame s' := by
  simp only [startGame, bind_eq_ok, get_eq_ok, refuseIf_eq_ok, modify_eq_ok, and_assoc,
    exists_and_left, exists_eq_left, exists_const] at h
  obtain ⟨hidle, rfl⟩ := h
  exact .startGame hidle

theorem shuffleDeck_fills {rules : Rules} {u : Unit}
    (h : (shuffleDeck rules).run s = .ok u s') :
    ∃ round shoe rng, s.table.round? = some round ∧
      (if s.table.player.tutorialFinished then shoe.Perm s.table.player.deck
        else shoe = tutorialDeck) ∧
      s' = { s with rng }.fillShoe round shoe := by
  simp only [shuffleDeck, fillShoe, bind_eq_ok, get_eq_ok, round_eq_ok, and_assoc,
    exists_and_left, exists_eq_left] at h
  obtain ⟨round, hround, h⟩ := h
  split at h
  · next hveteran =>
    simp only [bind_eq_ok, round_eq_ok, modify_eq_ok, and_assoc, exists_and_left] at h
    obtain ⟨shoe, t, hshuffle, current, hcurrent, _, rfl, rfl⟩ := h
    obtain ⟨hperm, rng, rfl, -⟩ := weightedShuffle_perm hshuffle
    exact ⟨current, shoe, rng, hcurrent, (if_pos hveteran).mpr hperm, rfl⟩
  · next htutorial =>
    simp only [bind_eq_ok, round_eq_ok, modify_eq_ok, and_assoc, exists_and_left] at h
    obtain ⟨current, hcurrent, t, rfl, rfl⟩ := h
    exact ⟨current, tutorialDeck, t.rng, hcurrent, (if_neg htutorial).mpr rfl, rfl⟩

private theorem announceRound_flows {tutorial : Bool} {round : Round} {u : Unit}
    (h : (announceRound house.catalog tutorial).run s = .ok u s')
    (hround : s.table.round? = some round) :
    (s.emit (.roundStarted round.number round.daimon round.daimonPool tutorial)).Flows s' := by
  simp only [announceRound, bind_eq_ok, round_eq_ok, modify_eq_ok, and_assoc, exists_and_left,
    exists_eq_left, exists_const] at h
  obtain ⟨current, hcurrent, rfl⟩ := h
  cases hround.symm.trans hcurrent
  exact (fireToken_flows _ house.catalog .roundStart).trans
    (fireDaimon_flows _ house.catalog .roundStart)

theorem startRound_transition {u : Unit} (h : (startRound house).run s = .ok u s') :
    Transition house s .startRound s' := by
  simp only [startRound, bind_eq_ok, get_eq_ok, refuseIf_eq_ok, and_assoc, exists_and_left,
    exists_eq_left, exists_const] at h
  obtain ⟨hidle, h⟩ := h
  split at h
  · exact absurd h throw_ne_ok
  · next game hgame =>
    obtain ⟨hgame, hopen⟩ := Option.filter_eq_some_iff.mp hgame
    split at h
    · exact absurd h throw_ne_ok
    · next daimon game' rng hdaimon =>
      simp only [bind_eq_ok, set_eq_ok, exists_eq_left, exists_const] at h
      obtain ⟨_, t, hshuffle, hannounce⟩ := h
      obtain ⟨round, shoe, rng', hround, hshoe, rfl⟩ := shuffleDeck_fills hshuffle
      have hfire := announceRound_flows hannounce rfl
      exact .startRound hidle hgame hopen hdaimon rfl hround hshoe hfire

theorem request_transition {request : Request} {reply : Reply}
    (h : (request.play house).run s = .ok reply s') : Transition house s request s' := by
  cases request with
  | startGame =>
    obtain ⟨_, hplay, -⟩ := bind_pure_eq_ok.mp h
    exact startGame_transition hplay
  | startRound =>
    obtain ⟨_, hplay, -⟩ := bind_pure_eq_ok.mp h
    exact startRound_transition hplay
  | startHand =>
    obtain ⟨_, hplay, -⟩ := bind_pure_eq_ok.mp h
    exact startHand_transition hplay
  | draw =>
    obtain ⟨_, hplay, -⟩ := bind_pure_eq_ok.mp h
    exact draw_transition hplay
  | stand =>
    obtain ⟨_, hplay, -⟩ := bind_pure_eq_ok.mp h
    exact stand_transition hplay
  | surrender =>
    obtain ⟨_, hplay, -⟩ := bind_pure_eq_ok.mp h
    exact surrender_transition hplay
  | doubleDown =>
    obtain ⟨_, hplay, -⟩ := bind_pure_eq_ok.mp h
    exact absurd hplay doubleDown_ne_ok
  | equipToken slot token =>
    obtain ⟨_, hplay, -⟩ := bind_pure_eq_ok.mp h
    exact equipToken_transition hplay
  | assignDeck cards =>
    obtain ⟨_, hplay, -⟩ := bind_pure_eq_ok.mp h
    exact assignDeck_transition hplay
  | claimStoryToken =>
    obtain ⟨_, hplay, -⟩ := bind_pure_eq_ok.mp h
    exact claimStoryToken_transition hplay

end Play

end BloodStakes
