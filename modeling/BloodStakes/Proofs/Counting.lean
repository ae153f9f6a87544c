import BloodStakes.Proofs.Conservation
import BloodStakes.Proofs.Moments

/-!
The card count. Whenever it is shown, the cards that are counted and the cards in the shoe are
together those of the deck, so the count says what the shoe still holds.
-/
namespace BloodStakes

/-- The tags of all these cards together. -/
def countOf (cards : List CardId) : Int :=
  cards.foldr (fun card count => Session.countTag card + count) 0

theorem countOf_cons (card : CardId) (cards : List CardId) :
    countOf (card :: cards) = Session.countTag card + countOf cards := rfl

theorem countOf_append (cards more : List CardId) :
    countOf (cards ++ more) = countOf cards + countOf more := by
  induction cards with
  | nil => exact (Int.zero_add _).symm
  | cons card cards ih => rw [List.cons_append, countOf_cons, countOf_cons, ih, Int.add_assoc]

theorem countOf_perm {cards more : List CardId} (h : cards.Perm more) :
    countOf cards = countOf more := by
  induction h with
  | nil => rfl
  | cons card _ ih => rw [countOf_cons, countOf_cons, ih]
  | swap card other cards => simp only [countOf_cons, Int.add_left_comm]
  | trans _ _ ih ih' => exact ih.trans ih'

namespace Session

variable {s s' t u : Session}

theorem seenCards_eq (s : Session) :
    s.seenCards = (s.table.round?.map Round.discard).getD [] ++ s.table.heldCards := by
  unfold seenCards Table.heldCards
  cases s.table.hand? with
  | none => exact (List.append_nil _).symm
  | some hand => cases hopen : hand.isInProgress <;> simp [hopen]

theorem runningCount_eq (s : Session) : s.runningCount = countOf s.seenCards := rfl

theorem runningCount_add_shoe (s : Session) :
    s.runningCount + countOf s.table.shoe = countOf s.table.cardsInPlay := by
  rw [s.runningCount_eq, s.seenCards_eq]
  cases hround : s.table.round? with
  | none => simp [Table.cardsInPlay, Table.pile, Table.shoe, hround, countOf]
  | some round =>
    simp only [Table.cardsInPlay, Table.pile, Table.shoe, Round.pile, hround, Option.map_some,
      Option.getD_some, countOf_append]
    omega

private theorem runningCount_of_undiscarded {round : Round} (hround : s.table.round? = some round)
    (hdiscard : round.discard = []) : s.runningCount = countOf s.table.heldCards := by
  rw [s.runningCount_eq, s.seenCards_eq, hround, Option.map_some, hdiscard]
  rfl

/-- The count is right for a deck: it is what the deck has and the shoe has not, and with the
discard pile gone it is what is held. -/
structure Counts (deck : List CardId) (s : Session) : Prop where
  complement : s.runningCount = countOf deck - countOf s.table.shoe
  held : ∀ round, s.table.round? = some round → round.discard = [] →
    s.runningCount = countOf s.table.heldCards

theorem counts_of_perm {deck : List CardId} (h : s.table.cardsInPlay.Perm deck) :
    s.Counts deck where
  complement := by
    rw [← countOf_perm h, ← s.runningCount_add_shoe]
    omega
  held _ hround hdiscard := runningCount_of_undiscarded hround hdiscard

theorem HandStep.records (h : s.HandStep s') : s'.effectLogs = s.effectLogs ∨
    ∃ log value, log.result = (s.perform log.action value).2 ∧
      s' = (s.perform log.action value).1.emit (.effectApplied log) := by
  cases h with
  | flow h =>
    cases h with
    | effect source phase action value => exact .inr ⟨⟨source, phase, action, _⟩, value, rfl, rfl⟩
    | payout outcome hhand hgoing => exact .inl (s.payPot_effectLogs outcome _)
    | refund hhand hgoing => exact .inl (by simp)
  | dealt pot playerCards daimonCards => exact .inl (emit_silent _ rfl)
  | drawn card total => exact .inl (emit_silent _ rfl)
  | deal hround hhand hcount h => exact .inl h.effectLogs

/-- Every record that has been added was made on the way, by its action and after the records
before it. -/
theorem PlaysOn.recorded (h : s.PlaysOn s') {earlier later : List EffectLog} {log : EffectLog}
    (hlogs : s'.effectLogs = s.effectLogs ++ (earlier ++ log :: later)) :
    ∃ t value, s.PlaysOn t ∧ t.effectLogs = s.effectLogs ++ earlier ∧
      log.result = (t.perform log.action value).2 ∧ t.PlaysOn s' := by
  induction h generalizing later with
  | refl =>
    have hnone : earlier ++ log :: later = [] := List.append_right_eq_self.mp hlogs.symm
    simp at hnone
  | @tail t s' hplay step ih =>
    obtain hsame | ⟨last, value, hlast, rfl⟩ := step.records
    · obtain ⟨u, value, hfirst, hbefore, hresult, hrest⟩ := ih (hsame ▸ hlogs)
      exact ⟨u, value, hfirst, hbefore, hresult, hrest.tail step⟩
    · rw [emit_effectLogs, perform_effectLogs] at hlogs
      -- the record of this step is the last of all
      have hlogs : t.effectLogs ++ [last] = s.effectLogs ++ (earlier ++ log :: later) := hlogs
      obtain rfl | ⟨later, other, rfl⟩ := later.eq_nil_or_concat
      · rw [← List.append_assoc] at hlogs
        obtain ⟨hbefore, hsame⟩ := List.append_inj' hlogs rfl
        cases hsame
        exact ⟨t, value, hplay, hbefore, hlast, .single step⟩
      · rw [List.concat_eq_append, ← List.cons_append, ← List.append_assoc,
          ← List.append_assoc] at hlogs
        obtain ⟨hbefore, -⟩ := List.append_inj' hlogs rfl
        rw [List.append_assoc] at hbefore
        obtain ⟨u, value, hfirst, hrecords, hresult, hrest⟩ := ih hbefore
        exact ⟨u, value, hfirst, hrecords, hresult, hrest.tail step⟩

end Session

section
variable {house : House} {s s' t : Session} {request : Request}

/-- A session in which a request has made ready for effects: the round has its shoe and has been
announced, the hand is open, or the token lies in its slot. -/
inductive Readies (house : House) (s : Session) : Request → Session → Prop
  | round {game game' : Game} {daimon : Daimon} {rng rng' : Rng} {round : Round}
      {shoe : List CardId} {t : Session} (hidle : s.roundInProgress = false)
      (hgame : s.table.game? = some game) (hopen : game.isInProgress = true)
      (hdaimon : house.catalog.nextDaimon s.table.player.storyProgression game s.rng =
        some (daimon, game', rng))
      (ht : t = { s with rng }.openRound house.rules daimon game')
      (hround : t.table.round? = some round)
      (hshoe : if s.table.player.tutorialFinished then shoe.Perm s.table.player.deck
        else shoe = tutorialDeck) :
      Readies house s .startRound (({ t with rng := rng' }.fillShoe round shoe).emit
        (.roundStarted round.number round.daimon round.daimonPool
          (!s.table.player.tutorialFinished)))
  | hand {request : Request} {t : Session} (h : Enters house s request t) :
      Readies house s request t
  | token {slot : SlotId} {token : TokenId} {player : Player}
      (hplayer : s.table.player.equipToken slot token = .ok player)
      (hround : s.roundInProgress = true) :
      Readies house s (.equipToken slot token) (s.putPlayer player)

/-- The request makes ready for effects, begins and plays on until the hand is closed or the
request is done, which leaves the last session. -/
structure Session.Passes (house : House) (s : Session) (request : Request)
    (first begun last s' : Session) : Prop where
  ready : Readies house s request first
  begins : first.Begins house.rules request begun
  plays : begun.PlaysOn last
  ends : last = s' ∨ ∃ status, last.Closes status s'

/-- The second session comes up while the request is played, which leaves the third: on the way
to the stakes, or in the play after them. -/
def Session.Within (house : House) (s : Session) (request : Request) (t s' : Session) : Prop :=
  ∃ first begun last, s.Passes house request first begun last s' ∧
    (first.Bleeds t ∧ t.Bleeds begun ∨ begun.PlaysOn t ∧ t.PlaysOn last)

theorem Readies.effectLogs (h : Readies house s request t) : t.effectLogs = s.effectLogs := by
  cases h with
  | round hidle hgame hopen hdaimon ht hround hshoe =>
    rw [Session.emit_silent _ rfl, Session.fillShoe, Session.emit_silent _ rfl, ht]
    rfl
  | hand h => cases h <;> rfl
  | token hplayer hround => rfl

theorem Session.Closes.effectLogs {status : HandStatus} (h : s.Closes status s') :
    s'.effectLogs = s.effectLogs := by
  cases h with
  | intro hhand hplayer hdaimon =>
    rw [Session.emit_silent _ rfl]
    rfl

theorem Session.Begins.effectLogs (h : s.Begins house.rules request s') :
    s'.effectLogs = s.effectLogs := by
  cases h with
  | forfeit hopen => exact changePlayerPool_effectLogs _ _
  | stakes hopen hround hstake => simp [payStakes]
  | move hmove => rfl

theorem Transition.passes (h : Transition house s request s') : s'.effectLogs = s.effectLogs ∨
    ∃ first begun last, s.Passes house request first begun last s' := by
  cases h with
  | startGame hidle => exact .inl (Session.emit_silent _ rfl)
  | startRound hidle hgame hopen hdaimon ht hround hshoe hfire =>
    exact .inr ⟨_, _, s', .round hidle hgame hopen hdaimon ht hround hshoe, .move nofun,
      hfire.playsOn, .inl rfl⟩
  | closed henter hbegin h =>
    obtain ⟨last, status, hplay, -, hclose⟩ := h.closes
    exact .inr ⟨_, _, last, .hand henter, hbegin, hplay, .inr ⟨status, hclose⟩⟩
  | opened henter hbegin hgoing hdeal =>
    have hplay := henter.playsOn_opened hbegin hgoing hdeal
    exact .inr ⟨_, _, s', .hand henter, hbegin, hplay, .inl rfl⟩
  | drawn henter hdeal hhand hranks hbust hfire hgoing =>
    have hplay := henter.playsOn_drawn hdeal hfire
    exact .inr ⟨_, _, s', .hand henter, .move nofun, hplay, .inl rfl⟩
  | equipped hplayer hfire hidle hgoing =>
    cases hround : s.roundInProgress with
    | false =>
      rw [hidle hround]
      exact .inl rfl
    | true => exact .inr ⟨_, _, s', .token hplayer hround, .move nofun, hfire.playsOn, .inl rfl⟩
  | deckAssigned hranks hplayer => exact .inl rfl
  | rewardClaimed hround hwon hclaim h =>
    obtain rfl | ⟨token, -, rfl⟩ := h
    · exact .inl rfl
    · exact .inl (Session.emit_silent _ rfl)

theorem Transition.recorded (h : Transition house s request s') {earlier later : List EffectLog}
    {log : EffectLog} (hlogs : s'.effectLogs = s.effectLogs ++ (earlier ++ log :: later)) :
    ∃ t value, s.Within house request t s' ∧ t.effectLogs = s.effectLogs ++ earlier ∧
      log.result = (t.perform log.action value).2 := by
  obtain hnone | ⟨first, begun, last, hpasses⟩ := h.passes
  · rw [hnone] at hlogs
    have hnone : earlier ++ log :: later = [] := List.append_right_eq_self.mp hlogs.symm
    simp at hnone
  · have hsame : s'.effectLogs = last.effectLogs := by
      obtain rfl | ⟨status, hclose⟩ := hpasses.ends
      · rfl
      · exact hclose.effectLogs
    have hnone : begun.effectLogs = s.effectLogs :=
      hpasses.begins.effectLogs.trans hpasses.ready.effectLogs
    rw [hsame, ← hnone] at hlogs
    obtain ⟨t, value, hfirst, hbefore, hresult, hrest⟩ := hpasses.plays.recorded hlogs
    rw [hnone] at hbefore
    exact ⟨t, value, ⟨first, begun, last, hpasses, .inr ⟨hfirst, hrest⟩⟩, hbefore, hresult⟩

theorem Enters.outset? (h : Enters house s request t) (player : PlayerId) (before : Table)
    (report : Report) (history : List Grant) :
    outset? (⟨player, request, before, report⟩ :: history) = BloodStakes.outset? history := by
  cases h with
  | startHand hround hopen hidle hstake => rfl
  | move hmove hround hhand => obtain rfl | rfl | rfl := hmove <;> rfl
  | equipToken hplayer hround hhand => rfl

theorem Readies.cardsInPlay_perm {player : PlayerId} {before outset : Table} {report : Report}
    {history : List Grant} {rng : Rng} (h : Readies house { table := before, rng } request t)
    (hconserved : Conserves history before)
    (houtset : outset? (⟨player, request, before, report⟩ :: history) = some outset)
    (hveteran : outset.player.tutorialFinished = true) :
    t.table.player.tutorialFinished = true ∧ t.table.cardsInPlay.Perm outset.player.deck := by
  cases h with
  | round hidle hgame hopen hdaimon ht hround hshoe =>
    cases houtset
    rw [if_pos hveteran] at hshoe
    subst ht
    refine ⟨hveteran, ?_⟩
    simpa [Table.cardsInPlay, Table.pile, Table.heldCards, Round.pile, Session.openRound]
      using hshoe
  | hand henter =>
    rw [henter.outset?] at houtset
    have hsome := Session.isSome_round_of_inProgress henter.roundInProgress
    obtain ⟨_, houtset', -, hcards⟩ := hconserved.2 (henter.isSome_round ▸ hsome)
    cases houtset.symm.trans houtset'
    obtain ⟨hfinished, hperm⟩ := hcards hveteran
    rw [henter.cardsInPlay]
    exact ⟨henter.tutorialFinished.trans hfinished, hperm⟩
  | token hplayer hround =>
    obtain ⟨_, houtset', -, hcards⟩ := hconserved.2 (Session.isSome_round_of_inProgress hround)
    cases houtset.symm.trans houtset'
    obtain ⟨loadout, rfl⟩ := Player.equipToken_eq_ok hplayer
    exact hcards hveteran

end

/-- The count is the complement of the shoe. While a granted request is played in a round that was
started after the tutorial, the cards that are counted make up the deck of that start together with
the shoe; and each card count in its report was taken then, after the effects that are reported
before it. -/
theorem Service.Run.count_complements_shoe {house : House} {service after : Service}
    {log : List Grant} (h : service.Run house log) {player : PlayerId} {request : Request}
    {before outset : Table} {report : Report} (hload : service.store.load player = .ok before)
    (hgranted : service.perform player request = (.ok report, after))
    (houtset : outset? (⟨player, request, before, report⟩ :: historyOf player log) = some outset)
    (hveteran : outset.player.tutorialFinished = true) :
    ∃ rng s', (request.play house).run { table := before, rng } = .ok report.reply s' ∧
      report.table = s'.table ∧ report.events = s'.events ∧
      (∀ t, Session.Within house { table := before, rng } request t s' →
        t.Counts outset.player.deck) ∧
      ∀ earlier shown later, report.effectLogs = earlier ++ shown :: later →
        shown.action = .showCardCount →
          ∃ t, Session.Within house { table := before, rng } request t s' ∧
            t.effectLogs = earlier ∧
            shown.result = .cardCount (countOf outset.player.deck - countOf t.table.shoe) := by
  obtain ⟨_, rng, s', hload', hrun, htable, hevents, -⟩ := perform_eq_ok (h.filed player) hgranted
  cases hload.symm.trans hload'
  rw [h.house_eq] at hrun
  have hconserved : Conserves (historyOf player log) before :=
    Run.holds (fun _ => conserves_new) (fun _ _ => conserves_grant _ _) h hload
  have hcounts : ∀ t, Session.Within house { table := before, rng } request t s' →
      t.Counts outset.player.deck := by
    rintro t ⟨first, begun, last, hpasses, hplace⟩
    obtain ⟨hfinished, hperm⟩ := hpasses.ready.cardsInPlay_perm hconserved houtset hveteran
    apply Session.counts_of_perm
    obtain ⟨hstakes, -⟩ | ⟨hplay, -⟩ := hplace
    · rwa [hstakes.cardsInPlay]
    · have hbegun := hpasses.begins.bleeds
      rw [← hbegun.cardsInPlay] at hperm
      exact (hplay.cardsInPlay_perm (hbegun.advances.tutorialFinished hfinished)).trans hperm
  refine ⟨rng, s', hrun, htable, hevents, hcounts, fun earlier shown later hlogs hshown => ?_⟩
  have hlogs' : s'.effectLogs = earlier ++ shown :: later := by
    rw [← hlogs, Report.effectLogs, hevents]
    rfl
  obtain ⟨t, value, hwithin, hbefore, hresult⟩ :=
    (Play.request_transition hrun).recorded (hlogs'.trans (List.nil_append _).symm)
  have hcount : (t.perform .showCardCount value).2 = .cardCount t.runningCount := rfl
  rw [hshown, hcount, (hcounts t hwithin).complement] at hresult
  exact ⟨t, hwithin, hbefore, hresult⟩

namespace Service

/-- The small house with decks of four cards and a daimon that counts them. -/
def countingHouse : House where
  rules := { smallHouse.rules with deckSize := 4 }
  catalog := {
    daimons := [{
      id := 1
      name := "Mara"
      rune := "m"
      storySequence := 0
      effect := {
        kindId := EffectKind.showCardCount.id
        bundle := .ofList [(.showCardCount, ⟨1, .handStart⟩)] }
      intro := ""
      playerWin := ""
      playerLose := "" }] }

/-- After the tutorial a hand is given up; one card is left in the shoe. -/
def countingRun : Service × List Grant :=
  [.startGame, .assignDeck [261, 262, 269, 270], .startRound, .startHand, .startRound, .startHand,
    .surrender].foldl (record 1)
    ((createPlayer { house := countingHouse, seed := 7 } "Ada").2, [])

/-- The count that a record shows, if it shows one. -/
def shownCount? (log : EffectLog) : Option Int :=
  match log.action, log.result with
  | .showCardCount, .cardCount count => some count
  | _, _ => none

private theorem shownCount?_eq_some {log : EffectLog} {count : Int}
    (h : shownCount? log = some count) :
    log.action = .showCardCount ∧ log.result = .cardCount count := by
  unfold shownCount? at h
  split at h
  · next haction hresult => exact ⟨haction, by rw [hresult, Option.some.inj h]⟩
  · cases h

theorem countingRun_run : countingRun.1.Run countingHouse countingRun.2 :=
  Run.recordAll (.playerCreated (.opened 7 0 1) "Ada") 1 _

/-- The next hand is dealt across a reshuffle, and the three cards that are held count one: two low
cards and a high one, as the deck is even and a high card has stayed in the shoe. -/
theorem Run.count_complements_shoe_countingRun :
    ∃ before report after outset, countingRun.1.store.load 1 = .ok before ∧
      countingRun.1.perform 1 .startHand = (.ok report, after) ∧
      outset? (⟨1, .startHand, before, report⟩ :: historyOf 1 countingRun.2) = some outset ∧
      outset.player.tutorialFinished = true ∧ countOf outset.player.deck = 0 ∧
      ∃ (shown : EffectLog) (t : Session), shown ∈ report.effectLogs ∧
        shown.result = .cardCount 1 ∧ countOf t.table.shoe = -1 := by
  have hshows : (countingRun.1.perform 1 .startHand).1.toOption.any (fun report =>
      report.effectLogs.any fun log => shownCount? log == some 1) = true := by
    decide +kernel
  have hdeck : (outset? (historyOf 1 countingRun.2)).any (fun outset =>
      outset.player.tutorialFinished && countOf outset.player.deck == 0) = true := by
    decide +kernel
  obtain ⟨report, hreport, hlogs⟩ := exists_of_any_toOption hshows
  obtain ⟨shown, hmem, hshown⟩ := List.any_eq_true.mp hlogs
  obtain ⟨haction, hresult⟩ := shownCount?_eq_some (eq_of_beq hshown)
  obtain ⟨after, hgranted⟩ : ∃ after,
      countingRun.1.perform 1 .startHand = (.ok report, after) := by
    rw [← hreport]
    exact ⟨_, (Prod.eta _).symm⟩
  obtain ⟨before, -, -, hload, -⟩ := perform_eq_ok (countingRun_run.filed 1) hgranted
  obtain ⟨outset, houtset, hdeck⟩ := Option.any_eq_true _ _ |>.mp hdeck
  obtain ⟨hveteran, hdeck⟩ := Bool.and_eq_true_iff.mp hdeck
  replace hdeck : countOf outset.player.deck = 0 := eq_of_beq hdeck
  have houtset' : outset? (⟨1, .startHand, before, report⟩ :: historyOf 1 countingRun.2) =
      some outset := (outset?_cons (by simp) (by simp)).trans houtset
  obtain ⟨rng, s', -, -, -, -, hcounted⟩ :=
    countingRun_run.count_complements_shoe hload hgranted houtset' hveteran
  obtain ⟨earlier, later, hsplit⟩ := List.append_of_mem hmem
  obtain ⟨t, -, -, hcount⟩ := hcounted earlier shown later hsplit haction
  rw [hresult, hdeck] at hcount
  refine ⟨before, report, after, outset, hload, hgranted, houtset', hveteran, hdeck, shown, t, hmem,
    hresult, ?_⟩
  have hcount := EffectResult.cardCount.inj hcount
  omega

end Service

end BloodStakes
