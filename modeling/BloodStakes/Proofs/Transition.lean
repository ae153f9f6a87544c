import BloodStakes.Proofs.Bleeding
import BloodStakes.Proofs.Dealing

/-!
What a granted request may do to a session. Every request on a hand opens it or finds it open,
goes through the same few steps, and then closes it or leaves it open.
-/
namespace BloodStakes

/-- The table with nothing on it that the play of an open hand can change. -/
def Table.steady (t : Table) : Table where
  player := { t.player with bloodPool := 0, tutorialFinished := false }
  game? := t.game?.map fun game => { game with status := .inProgress }
  round? := t.round?.map fun round =>
    { round with
      daimonPool := 0, daimonMaximum := 0, ceiling := 0, status := .inProgress
      shoe := [], discard := [] }
  hand? := t.hand?.map fun hand => { hand with pot := 0, playerCards := [], daimonCards := [] }

theorem Table.heldCards_bloodless (t : Table) : t.bloodless.heldCards = t.heldCards := by
  unfold heldCards bloodless
  cases t.hand? <;> rfl

theorem Table.steady_bloodless (t : Table) : t.bloodless.steady = t.steady := by
  simp [Table.steady, Table.bloodless, Function.comp_def]

namespace Session

/-- The hand is closed as `status`, and the result is announced. -/
inductive Closes (s : Session) (status : HandStatus) : Session → Prop
  | intro {hand : Hand} {playerRanks daimonRanks : List Rank}
      (hhand : s.table.hand? = some hand)
      (hplayer : ranksOf hand.playerCards = .ok playerRanks)
      (hdaimon : ranksOf hand.daimonCards = .ok daimonRanks) :
      Closes s status ((s.closeHand hand status).emit
        (.handResolved status hand.pot (Score.total playerRanks) (Score.total daimonRanks)))

/-- One step in an open hand. Cards are dealt one at a time, but for the first two. -/
inductive HandStep : Session → Session → Prop
  | flow {s s' : Session} (h : Flow s s') : HandStep s s'
  | dealt (s : Session) (pot : Int) (playerCards daimonCards : List CardId) :
      HandStep s (s.emit (.handDealt pot playerCards daimonCards))
  | drawn (s : Session) (card : CardId) (total : Nat) :
      HandStep s (s.emit (.cardDrawn card total))
  | deal {s s' : Session} {side : Side} {count : Nat} {cards : List CardId}
      (hround : s.roundInProgress = true) (hhand : s.handInProgress = true)
      (hcount : count = 1 ∨ count = 2 ∧ s.table.heldCards = [])
      (h : s.Deals side count cards s') : HandStep s s'

/-- Any number of steps in an open hand. -/
abbrev PlaysOn : Session → Session → Prop := Relation.ReflTransGen HandStep

/-- How a hand ends with the round. -/
def verdict (s : Session) : HandStatus :=
  if s.table.round?.map Round.status = some .won then .won else .lost

/-- How a hand ends: with the round if that is over, else by its outcome or by surrender, which
pay out the pot. -/
inductive Ends (s : Session) : HandStatus → Session → Prop
  | byRound (hover : s.roundTerminal = true) : Ends s s.verdict s
  | payout {hand : Hand} (outcome : Outcome) (hhand : s.table.hand? = some hand)
      (hgoing : s.roundTerminal = false) :
      Ends s (.ofOutcome outcome) (s.payPot outcome hand.pot)
  | refund {hand : Hand} (hhand : s.table.hand? = some hand) (hgoing : s.roundTerminal = false) :
      Ends s .lost ((s.changePlayerPool (hand.pot.tdiv 4)).changeDaimonPool
        (hand.pot - hand.pot.tdiv 4))

/-- The hand ends and is closed, with no more cards and no more effects. -/
def Finishes (s : Session) (status : HandStatus) (s' : Session) : Prop :=
  ∃ u, s.Ends status u ∧ u.Closes status s'

/-- The hand is played to its end and closed. -/
def Concludes (s s' : Session) : Prop :=
  ∃ t u status, s.PlaysOn t ∧ t.Ends status u ∧ u.Closes status s'

/-- A new hand begins with the stakes, or with the loss of all blood if there is nothing to
stake. -/
inductive Begins (rules : Rules) (s : Session) : Request → Session → Prop
  | forfeit (hopen : s.roundInProgress = true) :
      Begins rules s .startHand (s.changePlayerPool (-s.table.player.bloodPool))
  | stakes {round : Round} {stake : Int} (hopen : s.roundInProgress = true)
      (hround : s.table.round? = some { round with handsPlayed := round.handsPlayed + 1 })
      (hstake : rules.wagerFor round.handsPlayed s.table.player.bloodPool = stake) :
      Begins rules s .startHand (s.payStakes stake)
  | move {request : Request} (h : request ≠ .startHand) : Begins rules s request s

/-- Two cards for the player and one for the daimon, which leave the hand open. -/
inductive OpeningDeal (s : Session) : Session → Prop
  | intro {t u s' : Session} {cards more : List CardId} {dealt : Hand} {ranks : List Rank}
      (hheld : s.table.heldCards = []) (hplayer : s.Deals .player 2 cards t)
      (hdaimon : t.Deals .daimon 1 more u)
      (hdealt : u.table.hand? = some dealt)
      (hfire : Flows (u.emit (.handDealt dealt.pot dealt.playerCards dealt.daimonCards)) s')
      (hgoing : s'.roundTerminal = false)
      (hranks : ranksOf dealt.playerCards = .ok ranks)
      (hnatural : Score.isNatural ranks = false) : OpeningDeal s s'

theorem Flows.playsOn {s s' : Session} (h : s.Flows s') : s.PlaysOn s' :=
  h.lift id fun _ _ => .flow

theorem Begins.bleeds {rules : Rules} {s s' : Session} {request : Request}
    (h : s.Begins rules request s') : s.Bleeds s' := by
  cases h with
  | forfeit hopen => exact s.changePlayerPool_bleeds _
  | stakes hopen hround hstake => exact s.payStakes_bleeds _
  | move h => exact .refl

theorem Ends.flows {s s' : Session} {status : HandStatus} (h : s.Ends status s') : s.Flows s' := by
  cases h with
  | byRound hover => exact .refl
  | payout outcome hhand hgoing => exact .single (.payout outcome hhand hgoing)
  | refund hhand hgoing => exact .single (.refund hhand hgoing)

theorem Ends.status_ne {s s' : Session} {status : HandStatus} (h : s.Ends status s') :
    status ≠ .inProgress := by
  cases h with
  | byRound hover =>
    unfold verdict
    split <;> decide
  | payout outcome hhand hgoing => cases outcome <;> decide
  | refund hhand hgoing => decide

theorem Finishes.concludes {s t s' : Session} {status : HandStatus} (h : t.Finishes status s')
    (hplay : s.PlaysOn t) : s.Concludes s' := by
  obtain ⟨u, hend, hclose⟩ := h
  exact ⟨t, u, status, hplay, hend, hclose⟩

theorem Concludes.after {s t s' : Session} (h : t.Concludes s') (hplay : s.PlaysOn t) :
    s.Concludes s' := by
  obtain ⟨u, v, status, hplay', hend, hclose⟩ := h
  exact ⟨u, v, status, hplay.trans hplay', hend, hclose⟩

theorem Concludes.closes {s s' : Session} (h : s.Concludes s') :
    ∃ t status, s.PlaysOn t ∧ status ≠ .inProgress ∧ t.Closes status s' := by
  obtain ⟨t, u, status, hplay, hend, hclose⟩ := h
  exact ⟨u, status, hplay.trans hend.flows.playsOn, hend.status_ne, hclose⟩

theorem Bleeds.steady {s s' : Session} (h : s.Bleeds s') : s'.table.steady = s.table.steady := by
  rw [← s'.table.steady_bloodless, h.bloodless.1, s.table.steady_bloodless]

theorem Draws.steady {s s' : Session} {cards : List CardId} (h : s.Draws cards s') :
    s'.table.steady = s.table.steady := by
  induction h with
  | done s => rfl
  | refill rng hround hempty hshoe _ ih =>
    rw [ih]
    simp [Table.steady, hround]
  | take hround hshoe _ ih =>
    rw [ih]
    simp [Table.steady, hround]

theorem Deals.steady {s s' : Session} {side : Side} {count : Nat} {cards : List CardId}
    (h : s.Deals side count cards s') : s'.table.steady = s.table.steady := by
  cases h with
  | @intro t hand hhand hdraws hcount hshort =>
    have hhand' := hdraws.hand?.trans hhand
    rw [← hdraws.steady]
    cases side <;> simp [Table.steady, Hand.receive, hhand']

theorem HandStep.steady {s s' : Session} (h : s.HandStep s') :
    s'.table.steady = s.table.steady := by
  cases h with
  | flow h => exact h.bleeds.steady
  | dealt => rfl
  | drawn => rfl
  | deal hround hhand hcount h => exact h.steady

theorem PlaysOn.steady {s s' : Session} (h : s.PlaysOn s') :
    s'.table.steady = s.table.steady := by
  induction h with
  | refl => rfl
  | tail _ step ih => exact step.steady.trans ih

section
variable {s s' : Session} (h : s'.table.steady = s.table.steady)
include h

theorem handInProgress_of_steady : s'.handInProgress = s.handInProgress := by
  have hhand := congrArg (fun t : Table => t.hand?.any Hand.isInProgress) h
  simp only [Table.steady, Option.any_map] at hhand
  exact hhand

theorem isSome_round_of_steady : s'.table.round?.isSome = s.table.round?.isSome := by
  have hround := congrArg (fun t : Table => t.round?.isSome) h
  simpa [Table.steady] using hround

end

theorem Bleeds.hand? {s s' : Session} (h : s.Bleeds s') :
    s'.table.hand?.map (fun hand => { hand with pot := 0 }) =
      s.table.hand?.map fun hand => { hand with pot := 0 } :=
  congrArg Table.hand? h.bloodless.1

theorem Bleeds.heldCards {s s' : Session} (h : s.Bleeds s') :
    s'.table.heldCards = s.table.heldCards := by
  rw [← s'.table.heldCards_bloodless, h.bloodless.1, s.table.heldCards_bloodless]

theorem Bleeds.shoe {s s' : Session} (h : s.Bleeds s') : s'.table.shoe = s.table.shoe := by
  have hsame := congrArg Table.shoe h.bloodless.1
  simpa [Table.shoe, Table.bloodless, Function.comp_def] using hsame

theorem roundInProgress_of_going {s : Session} (h : s.table.round?.isSome)
    (hgoing : s.roundTerminal = false) : s.roundInProgress = true := by
  obtain ⟨round, hround⟩ := Option.isSome_iff_exists.mp h
  simpa [roundTerminal, roundInProgress, hround, Round.isTerminal] using hgoing

theorem isSome_round_of_inProgress {s : Session} (h : s.roundInProgress = true) :
    s.table.round?.isSome := by
  obtain ⟨round, hround, -⟩ := s.roundInProgress_iff.mp h
  simp [hround]

theorem Bleeds.roundInProgress {s s' : Session} (h : s.Bleeds s')
    (hopen : s.roundInProgress = true) (hgoing : s'.roundTerminal = false) :
    s'.roundInProgress = true :=
  roundInProgress_of_going (isSome_round_of_steady h.steady ▸ isSome_round_of_inProgress hopen)
    hgoing

theorem Draws.roundInProgress {s s' : Session} {cards : List CardId} (h : s.Draws cards s')
    (hopen : s.roundInProgress = true) : s'.roundInProgress = true := by
  obtain ⟨round, hround, hopen⟩ := s.roundInProgress_iff.mp hopen
  obtain ⟨shoe, discard, h⟩ := h.exists_table hround
  exact s'.roundInProgress_iff.mpr ⟨_, congrArg Table.round? h, hopen⟩

theorem Deals.roundInProgress {s s' : Session} {side : Side} {count : Nat} {cards : List CardId}
    (h : s.Deals side count cards s') (hopen : s.roundInProgress = true) :
    s'.roundInProgress = true := by
  cases h with
  | intro hhand hdraws hcount hshort => exact hdraws.roundInProgress hopen

theorem OpeningDeal.playsOn {s s' : Session} (h : s.OpeningDeal s')
    (hround : s.roundInProgress = true) (hhand : s.handInProgress = true) : s.PlaysOn s' := by
  cases h with
  | @intro t u _ _ _ _ _ hheld hplayer hdaimon hdealt hfire hgoing hranks hnatural =>
    have hround' := hplayer.roundInProgress hround
    have hhand' := (handInProgress_of_steady hplayer.steady).trans hhand
    have hdeals : s.PlaysOn u :=
      .tail (.single (.deal hround hhand (.inr ⟨rfl, hheld⟩) hplayer))
        (.deal hround' hhand' (.inl rfl) hdaimon)
    exact (hdeals.tail (.dealt u _ _ _)).trans hfire.playsOn

end Session

open Session in
/-- A request on a hand opens it, or finds it open in an open round. -/
inductive Enters (house : House) (s : Session) : Request → Session → Prop
  | startHand {round : Round} {stake : Int} (hround : s.table.round? = some round)
      (hopen : round.isInProgress = true) (hidle : s.handInProgress = false)
      (hstake : house.rules.wagerFor round.handsPlayed s.table.player.bloodPool = stake) :
      Enters house s .startHand (s.openHand round stake)
  | move {request : Request} (hmove : request = .draw ∨ request = .stand ∨ request = .surrender)
      (hround : s.roundInProgress = true) (hhand : s.handInProgress = true) :
      Enters house s request s
  | equipToken {slot : SlotId} {token : TokenId} {player : Player}
      (hplayer : s.table.player.equipToken slot token = .ok player)
      (hround : s.roundInProgress = true) (hhand : s.handInProgress = true) :
      Enters house s (.equipToken slot token) (s.putPlayer player)

/-- What a granted request does. -/
inductive Transition (house : House) (s : Session) : Request → Session → Prop
  | startGame (hidle : s.table.game?.any Game.isInProgress = false) :
      Transition house s .startGame s.openGame
  | startRound {game game' : Game} {daimon : Daimon} {rng rng' : Rng} {round : Round}
      {shoe : List CardId} {t s' : Session}
      (hidle : s.roundInProgress = false)
      (hgame : s.table.game? = some game) (hopen : game.isInProgress = true)
      (hdaimon : house.catalog.nextDaimon s.table.player.storyProgression game s.rng =
        some (daimon, game', rng))
      (ht : t = { s with rng }.openRound house.rules daimon game')
      (hround : t.table.round? = some round)
      (hshoe : if s.table.player.tutorialFinished then shoe.Perm s.table.player.deck
        else shoe = tutorialDeck)
      (hfire : (({ t with rng := rng' }.fillShoe round shoe).emit
        (.roundStarted round.number round.daimon round.daimonPool
          (!s.table.player.tutorialFinished))).Flows s') :
      Transition house s .startRound s'
  | closed {request : Request} {t u s' : Session} (henter : Enters house s request t)
      (hbegin : t.Begins house.rules request u) (h : u.Concludes s') :
      Transition house s request s'
  | opened {t u s' : Session} (henter : Enters house s .startHand t)
      (hbegin : t.Begins house.rules .startHand u)
      (hgoing : u.roundTerminal = false) (hdeal : u.OpeningDeal s') :
      Transition house s .startHand s'
  | drawn {t s' : Session} {cards : List CardId} {card : CardId} {hand : Hand}
      {ranks : List Rank} (henter : Enters house s .draw s)
      (hdeal : s.Deals .player 1 (card :: cards) t) (hhand : t.table.hand? = some hand)
      (hranks : ranksOf hand.playerCards = .ok ranks) (hbust : Score.isBust ranks = false)
      (hfire : (t.emit (.cardDrawn card (Score.total ranks))).Flows s')
      (hgoing : s'.roundTerminal = false) : Transition house s .draw s'
  | equipped {slot : SlotId} {token : TokenId} {player : Player} {s' : Session}
      (hplayer : s.table.player.equipToken slot token = .ok player)
      (hfire : (s.putPlayer player).Flows s')
      (hidle : s.roundInProgress = false → s' = s.putPlayer player)
      (hgoing : s'.handInProgress = true → s.roundInProgress = true → s'.roundTerminal = false) :
      Transition house s (.equipToken slot token) s'
  | deckAssigned {cards : List CardId} {ranks : List Rank} {player : Player}
      (hranks : ranksOf cards = .ok ranks)
      (hplayer : s.table.player.assignDeck cards house.rules.deckSize = .ok player) :
      Transition house s (.assignDeck cards) (s.putPlayer player)
  | rewardClaimed {round : Round} {s' : Session} (hround : s.table.round? = some round)
      (hwon : round.status = .won) (hclaim : round.rewardClaimed = false)
      (h : s' = s.putRound { round with rewardClaimed := true } ∨
        ∃ token, house.catalog.storyToken? s.table.player.storyProgression = some token ∧
          s' = (s.putRound { round with rewardClaimed := true }).grantStoryToken token.id) :
      Transition house s .claimStoryToken s'

theorem Enters.ne_opening {house : House} {s t : Session} {request : Request}
    (h : Enters house s request t) : request ≠ .startGame ∧ request ≠ .startRound := by
  cases h with
  | startHand => exact ⟨nofun, nofun⟩
  | move hmove => obtain rfl | rfl | rfl := hmove <;> exact ⟨nofun, nofun⟩
  | equipToken => exact ⟨nofun, nofun⟩

theorem Enters.handInProgress {house : House} {s t : Session} {request : Request}
    (h : Enters house s request t) : t.handInProgress = true := by
  cases h with
  | startHand => rfl
  | move hmove hround hhand => exact hhand
  | equipToken hplayer hround hhand => exact hhand

theorem Enters.roundInProgress {house : House} {s t : Session} {request : Request}
    (h : Enters house s request t) : t.roundInProgress = true := by
  cases h with
  | startHand hround hopen hidle hstake => exact hopen
  | move hmove hround hhand => exact hround
  | equipToken hplayer hround hhand => exact hround

theorem Enters.open_of_begins {house : House} {s t u : Session} {request : Request}
    (h : Enters house s request t) (hbegin : t.Begins house.rules request u)
    (hgoing : u.roundTerminal = false) : u.roundInProgress = true ∧ u.handInProgress = true :=
  ⟨hbegin.bleeds.roundInProgress h.roundInProgress hgoing,
    (Session.handInProgress_of_steady hbegin.bleeds.steady).trans h.handInProgress⟩

theorem Enters.playsOn_opened {house : House} {s t u s' : Session} {request : Request}
    (h : Enters house s request t) (hbegin : t.Begins house.rules request u)
    (hgoing : u.roundTerminal = false) (hdeal : u.OpeningDeal s') : u.PlaysOn s' := by
  obtain ⟨hround, hhand⟩ := h.open_of_begins hbegin hgoing
  exact hdeal.playsOn hround hhand

theorem Enters.playsOn_drawn {house : House} {s t u s' : Session} {request : Request}
    {side : Side} {cards : List CardId} {card : CardId} {total : Nat}
    (h : Enters house s request t) (hdeal : t.Deals side 1 cards u)
    (hfire : (u.emit (.cardDrawn card total)).Flows s') : t.PlaysOn s' := by
  have hdrawn : t.PlaysOn (u.emit (.cardDrawn card total)) :=
    .tail (.single (.deal h.roundInProgress h.handInProgress (.inl rfl) hdeal))
      (.drawn u card total)
  exact hdrawn.trans hfire.playsOn

def Player.lasting (player : Player) : PlayerId × String × Bool × Int × List CardId :=
  (player.id, player.username, player.isGuest, player.maxBloodPool, player.cards)

theorem Player.equipToken_eq_ok {player player' : Player} {slot : SlotId} {token : TokenId}
    (h : player.equipToken slot token = .ok player') :
    ∃ loadout, player' = { player with loadout } := by
  unfold equipToken at h
  split at h
  · split at h
    · exact ⟨_, (Except.ok.inj h).symm⟩
    · cases h
  · cases h

theorem Player.assignDeck_eq_ok {player player' : Player} {cards : List CardId} {size : Nat}
    (h : player.assignDeck cards size = .ok player') :
    Deck.validate cards size player.ownsCard = .ok () ∧
      player' = { player with deck := cards } := by
  unfold assignDeck at h
  split at h
  · next hvalid => exact ⟨hvalid, (Except.ok.inj h).symm⟩
  · cases h

theorem Player.grantToken_cases (player : Player) (token : TokenId) :
    ∃ tokens, player.grantToken token = { player with tokens } := by
  unfold grantToken
  split
  · exact ⟨player.tokens, rfl⟩
  · exact ⟨_, rfl⟩

theorem Session.claimed_table {catalog : Catalog} {s s' : Session} {round : Round}
    (h : s' = s.putRound { round with rewardClaimed := true } ∨
      ∃ token, catalog.storyToken? s.table.player.storyProgression = some token ∧
        s' = (s.putRound { round with rewardClaimed := true }).grantStoryToken token.id) :
    ∃ tokens storyProgression, s'.table =
      { s.table with
        player := { s.table.player with tokens, storyProgression }
        round? := some { round with rewardClaimed := true } } := by
  obtain rfl | ⟨token, -, rfl⟩ := h
  · exact ⟨_, _, rfl⟩
  · obtain ⟨tokens, hgrant⟩ := Player.grantToken_cases s.table.player token.id
    simp only [grantStoryToken, putRound_table, emit_table, putPlayer_table, hgrant]
    exact ⟨_, _, rfl⟩

theorem Session.lasting_of_steady {s s' : Session} (h : s'.table.steady = s.table.steady) :
    s'.table.player.lasting = s.table.player.lasting ∧
      s'.table.player.deck = s.table.player.deck := by
  have hplayer := congrArg (fun t => (t.player.lasting, t.player.deck)) h
  exact Prod.ext_iff.mp hplayer

theorem Session.Concludes.lasting {s s' : Session} (h : s.Concludes s') :
    s'.table.player.lasting = s.table.player.lasting ∧
      s'.table.player.deck = s.table.player.deck := by
  obtain ⟨t, status, hplay, -, hclose⟩ := h.closes
  cases hclose with
  | intro hhand hplayer hdaimon =>
    have hlasting := lasting_of_steady hplay.steady
    exact hlasting

theorem Enters.lasting {house : House} {s t : Session} {request : Request}
    (h : Enters house s request t) :
    t.table.player.lasting = s.table.player.lasting ∧
      t.table.player.deck = s.table.player.deck := by
  cases h with
  | startHand hround hopen hidle hstake => exact ⟨rfl, rfl⟩
  | move hmove hround hhand => exact ⟨rfl, rfl⟩
  | equipToken hplayer hround hhand =>
    obtain ⟨loadout, rfl⟩ := Player.equipToken_eq_ok hplayer
    exact ⟨rfl, rfl⟩

/-- No request changes who the player is, the player's own maximum or the cards owned, and
only a valid deck becomes the player's. -/
theorem Transition.lasting {house : House} {s s' : Session} {request : Request}
    (h : Transition house s request s') :
    s'.table.player.lasting = s.table.player.lasting ∧
      (s'.table.player.deck = s.table.player.deck ∨
        Deck.validate s'.table.player.deck house.rules.deckSize s.table.player.ownsCard =
          .ok ()) := by
  cases h with
  | startGame hidle => exact ⟨rfl, .inl rfl⟩
  | startRound hidle hgame hopen hdaimon ht hround hshoe hfire =>
    obtain ⟨hlasting, hdeck⟩ := Session.lasting_of_steady hfire.bleeds.steady
    rw [hlasting, hdeck, ht]
    exact ⟨rfl, .inl rfl⟩
  | closed henter hbegin h =>
    obtain ⟨hlasting, hdeck⟩ := h.lasting
    obtain ⟨hlasting', hdeck'⟩ := Session.lasting_of_steady hbegin.bleeds.steady
    rw [hlasting, hdeck, hlasting', hdeck']
    exact ⟨henter.lasting.1, .inl henter.lasting.2⟩
  | opened henter hbegin hgoing hdeal =>
    have hplay := henter.playsOn_opened hbegin hgoing hdeal
    have hsteady := hplay.steady.trans hbegin.bleeds.steady
    obtain ⟨hlasting, hdeck⟩ := Session.lasting_of_steady hsteady
    rw [hlasting, hdeck]
    exact ⟨henter.lasting.1, .inl henter.lasting.2⟩
  | drawn henter hdeal hhand hranks hbust hfire hgoing =>
    have hplay := henter.playsOn_drawn hdeal hfire
    obtain ⟨hlasting, hdeck⟩ := Session.lasting_of_steady hplay.steady
    exact ⟨hlasting, .inl hdeck⟩
  | equipped hplayer hfire hidle hgoing =>
    obtain ⟨loadout, rfl⟩ := Player.equipToken_eq_ok hplayer
    obtain ⟨hlasting, hdeck⟩ := Session.lasting_of_steady hfire.bleeds.steady
    exact ⟨hlasting, .inl hdeck⟩
  | deckAssigned hranks hplayer =>
    obtain ⟨hvalid, rfl⟩ := Player.assignDeck_eq_ok hplayer
    exact ⟨rfl, .inr hvalid⟩
  | rewardClaimed hround hwon hclaim h =>
    obtain ⟨tokens, progression, htable⟩ := Session.claimed_table h
    rw [htable]
    exact ⟨rfl, .inl rfl⟩

end BloodStakes
