import BloodStakes.Catalog.Validation
import BloodStakes.Proofs.Bounds
import BloodStakes.Proofs.Nesting
import BloodStakes.Proofs.Printed

/-!
Progress. Between requests a player always has something to do, and whatever is offered is
granted: a round in progress cannot run out of cards, every card has a rank, there is a daimon
for every stage of the story, and the store accepts what is left.
-/
namespace BloodStakes

namespace Play

open Session

/-- The play is granted. -/
def Succeeds {α : Type} (p : Play α) (s : Session) : Prop := ∃ a s', p.run s = .ok a s'

section
variable {α β : Type} {p : Play α} {s : Session}

theorem succeeds_pure (a : α) : Succeeds (pure a) s := ⟨a, s, rfl⟩

theorem succeeds_modify (g : Session → Session) : Succeeds (modify g) s := ⟨⟨⟩, g s, rfl⟩

namespace Succeeds

theorem bind {f : α → Play β} (h : Succeeds p s)
    (hf : ∀ a s', p.run s = .ok a s' → Succeeds (f a) s') : Succeeds (p >>= f) s := by
  obtain ⟨a, t, hp⟩ := h
  obtain ⟨b, u, hf⟩ := hf a t hp
  exact ⟨b, u, bind_eq_ok.mpr ⟨a, t, hp, hf⟩⟩

theorem bind_pure (h : Succeeds p s) (f : α → β) : Succeeds (p >>= fun a => pure (f a)) s :=
  h.bind fun _ _ _ => succeeds_pure _

theorem get_bind {f : Session → Play β} (h : Succeeds (f s) s) : Succeeds (get >>= f) s := h

theorem modify_bind {g : Session → Session} {f : PUnit → Play β} (h : Succeeds (f ⟨⟩) (g s)) :
    Succeeds (modify g >>= f) s := h

private theorem set_bind {t : Session} {f : PUnit → Play β} (h : Succeeds (f ⟨⟩) t) :
    Succeeds (set t >>= f) s := h

theorem refuseIf_bind {condition : Bool} {e : PlayError} {f : Unit → Play β}
    (hcondition : condition = false) (h : Succeeds (f ()) s) :
    Succeeds (refuseIf condition e >>= f) s := by
  rw [hcondition]
  exact h

theorem ofExcept_bind {ε : Type} {toError : ε → PlayError} {result : Except ε α} {a : α}
    {f : α → Play β} (hresult : result = .ok a) (h : Succeeds (f a) s) :
    Succeeds (ofExcept toError result >>= f) s := by
  rw [hresult]
  exact h

theorem round_bind {round : Round} {f : Round → Play β} (hround : s.table.round? = some round)
    (h : Succeeds (f round) s) : Succeeds (Play.round >>= f) s := by
  obtain ⟨b, t, h⟩ := h
  exact ⟨b, t, bind_eq_ok.mpr ⟨round, s, round_eq_ok.mpr ⟨hround, rfl⟩, h⟩⟩

theorem hand_bind {hand : Hand} {f : Hand → Play β} (hhand : s.table.hand? = some hand)
    (h : Succeeds (f hand) s) : Succeeds (Play.hand >>= f) s := by
  obtain ⟨b, t, h⟩ := h
  exact ⟨b, t, bind_eq_ok.mpr ⟨hand, s, hand_eq_ok.mpr ⟨hhand, rfl⟩, h⟩⟩

theorem ranks_bind {cards : List CardId} {f : List Rank → Play β}
    (hcards : ∀ card ∈ cards, Face.IsPrinted card) (h : ∀ found, Succeeds (f found) s) :
    Succeeds (ranks cards >>= f) s := by
  obtain ⟨found, hfound⟩ := exists_ranksOf hcards
  exact ofExcept_bind hfound (h found)

end Succeeds

end

variable {s s' : Session} {house : House} {rules : Rules}

private theorem exists_sample {α : Type} {items : List α} {weights : List Float}
    (h : items.length = weights.length) (count : Nat) (rng : Rng) :
    ∃ drawn, sample items weights count rng = .ok drawn := by
  unfold sample
  exact ⟨_, dif_pos h⟩

theorem weightedShuffle_succeeds {cards : List CardId}
    (hcards : ∀ card ∈ cards, Face.IsPrinted card) (number : Nat) :
    Succeeds (weightedShuffle rules cards number) s := by
  obtain ⟨faces, hfaces⟩ := exists_ranksOf hcards
  refine .ofExcept_bind hfaces (.get_bind ?_)
  have hlength (weighting : Weighting Rank) :
      cards.length = (weighting.weights faces).length := by
    simp [Weighting.weights, ranksOf_length hfaces]
  obtain ⟨order, horder⟩ := exists_sample (hlength _) cards.length s.rng
  exact .ofExcept_bind horder (.modify_bind (succeeds_pure _))

theorem fillShoe_succeeds {round : Round} (hround : s.table.round? = some round)
    (shoe : List CardId) : Succeeds (fillShoe shoe) s :=
  .round_bind hround (succeeds_modify _)

theorem refill_succeeds {round : Round} (hround : s.table.round? = some round)
    (hs : s.table.Printed) : Succeeds (refill rules round) s := by
  refine .get_bind ?_
  split
  · refine weightedShuffle_succeeds (fun card hcard => hs.pile card ?_) _
    simp [Table.pile, Round.pile, hround, hcard]
  · exact succeeds_pure _

private theorem reshuffleIfEmpty_succeeds {round : Round} (hround : s.table.round? = some round)
    (hs : s.table.Printed) : Succeeds (reshuffleIfEmpty rules) s := by
  refine .get_bind ?_
  rw [hround]
  dsimp only
  split
  · refine (refill_succeeds hround hs).bind fun shoe t hrefill => ?_
    obtain ⟨-, rng, rfl, -⟩ := refill_refills hrefill
    split
    · exact succeeds_pure _
    · have hfill : Succeeds (fillShoe shoe) { s with rng } :=
        fillShoe_succeeds (by exact hround) shoe
      exact hfill.bind_pure _
  · exact succeeds_pure _

private theorem nextCard_succeeds {round : Round} (hround : s.table.round? = some round)
    (hs : s.table.Printed) : Succeeds (nextCard rules) s := by
  refine (reshuffleIfEmpty_succeeds hround hs).bind fun done t hreshuffle => ?_
  have hround' : ∃ round, t.table.round? = some round := by
    obtain ⟨rfl, -⟩ | ⟨shoe, rng, -, -, -, rfl⟩ := reshuffleIfEmpty_cases hreshuffle hround
    · exact ⟨round, hround⟩
    · exact ⟨_, rfl⟩
  obtain ⟨current, hcurrent⟩ := hround'
  refine .round_bind hcurrent ?_
  split
  · exact succeeds_pure _
  · exact .modify_bind (succeeds_pure _)

private theorem takeCards_succeeds {round : Round} (hround : s.table.round? = some round)
    (hs : s.table.Printed) (count : Nat) : Succeeds (takeCards rules count) s := by
  induction count generalizing s round with
  | zero => exact succeeds_pure _
  | succ count ih =>
    refine (nextCard_succeeds hround hs).bind fun card? t hnext => ?_
    obtain ⟨card, rfl, hdraws⟩ | ⟨rfl, rfl, -⟩ := nextCard_cases hnext
    · obtain ⟨shoe, discard, htable⟩ := hdraws.exists_table hround
      have hround' := congrArg Table.round? htable
      exact (ih hround' (hdraws.printed hs).1).bind_pure _
    · exact succeeds_pure _

/-- There is an open hand in a round, and every card is printed. -/
structure Ready (s : Session) : Prop where
  round : s.table.round?.isSome = true
  hand : s.handInProgress = true
  printed : s.table.Printed

theorem Ready.of_steady (hs : Ready s) (h : s'.table.steady = s.table.steady)
    (hprinted : s'.table.Printed) : Ready s' where
  round := (isSome_round_of_steady h).trans hs.round
  hand := (handInProgress_of_steady h).trans hs.hand
  printed := hprinted

theorem Ready.bleeds (hs : Ready s) (h : s.Bleeds s') : Ready s' :=
  hs.of_steady h.steady (h.printed hs.printed)

theorem Ready.deals {side : Side} {count : Nat} {cards : List CardId} (hs : Ready s)
    (h : s.Deals side count cards s') : Ready s' :=
  hs.of_steady h.steady (h.printed hs.printed)

theorem Ready.playsOn (hs : Ready s) (h : s.PlaysOn s') : Ready s' :=
  hs.of_steady h.steady (h.printed hs.printed)

theorem Ready.exists_hand (hs : Ready s) :
    ∃ hand, s.table.hand? = some hand ∧ hand.isInProgress = true ∧
      (∀ card ∈ hand.playerCards, Face.IsPrinted card) ∧
      ∀ card ∈ hand.daimonCards, Face.IsPrinted card := by
  obtain ⟨hand, hhand, hopen⟩ := s.handInProgress_iff.mp hs.hand
  exact ⟨hand, hhand, hopen, List.forall_mem_append.mp (hs.printed.hand hand hhand)⟩

theorem deal_succeeds (hs : Ready s) (side : Side) (count : Nat) :
    Succeeds (deal rules side count) s := by
  obtain ⟨hand, hhand, -⟩ := hs.exists_hand
  obtain ⟨round, hround⟩ := Option.isSome_iff_exists.mp hs.round
  have htaken : Succeeds (takeCards rules count) s := takeCards_succeeds hround hs.printed count
  refine .hand_bind hhand (htaken.bind fun cards t htake => ?_)
  refine .hand_bind ((takeCards_draws htake).1.hand?.trans hhand) ?_
  cases side <;> exact .modify_bind (succeeds_pure _)

theorem finishHand_succeeds (hs : Ready s) (status : HandStatus) :
    Succeeds (finishHand status) s := by
  obtain ⟨hand, hhand, -, hplayer, hdaimon⟩ := hs.exists_hand
  refine .hand_bind hhand (.ranks_bind hplayer fun _ => .ranks_bind hdaimon fun _ => ?_)
  exact .modify_bind (succeeds_pure _)

theorem closeByRound_succeeds (hs : Ready s) : Succeeds closeByRound s :=
  .get_bind (finishHand_succeeds hs _)

theorem unlessOver_succeeds {next : Play HandStatus} (hs : Ready s)
    (h : s.roundTerminal = false → Succeeds next s) : Succeeds (unlessOver next) s := by
  refine .get_bind ?_
  split
  · exact closeByRound_succeeds hs
  · next hgoing => exact h (Bool.eq_false_iff.mpr hgoing)

private theorem settle_succeeds (hs : Ready s) (outcome : Outcome) :
    Succeeds (settle house.catalog outcome) s := by
  have hfire := hs.bleeds (s.fireTable_flows house.catalog outcome.phase).bleeds
  refine .get_bind (.refuseIf_bind (by simp [hs.hand]) (.modify_bind ?_))
  refine unlessOver_succeeds hfire fun _ => ?_
  obtain ⟨hand, hhand, -⟩ := hfire.exists_hand
  refine .hand_bind hhand (.modify_bind ?_)
  exact finishHand_succeeds (hfire.bleeds (payPot_bleeds _ outcome hand.pot)) _

theorem resolve_succeeds (hs : Ready s) : Succeeds (resolve house.catalog) s := by
  obtain ⟨hand, hhand, -, hplayer, hdaimon⟩ := hs.exists_hand
  refine .hand_bind hhand (.ranks_bind hplayer fun _ => .ranks_bind hdaimon fun _ => ?_)
  exact settle_succeeds hs _

private theorem dealHand_succeeds (hs : Ready s) : Succeeds (dealHand house) s := by
  refine (deal_succeeds hs .player 2).bind fun _ t hplayer => ?_
  have ht := hs.deals (deal_deals hplayer)
  refine (deal_succeeds ht .daimon 1).bind fun _ u hdaimon => ?_
  have hu := ht.deals (deal_deals hdaimon)
  obtain ⟨dealt, hdealt, -⟩ := hu.exists_hand
  refine .hand_bind hdealt (.modify_bind (.modify_bind ?_))
  have hannounced : Ready (u.emit (.handDealt dealt.pot dealt.playerCards dealt.daimonCards)) :=
    ⟨hu.round, hu.hand, hu.printed⟩
  have hfire := hannounced.bleeds (fireTable_flows _ house.catalog .handStart).bleeds
  refine unlessOver_succeeds hfire fun _ => ?_
  obtain ⟨current, hcurrent, -, hcards, -⟩ := hfire.exists_hand
  refine .hand_bind hcurrent (.ranks_bind hcards fun _ => ?_)
  split
  · exact (deal_succeeds hfire .daimon 1).bind fun _ _ hlast =>
      resolve_succeeds (hfire.deals (deal_deals hlast))
  · exact succeeds_pure _

theorem wager_run {round : Round} (hround : s.table.round? = some round) :
    (wager rules).run s = .ok (rules.wagerFor round.handsPlayed s.table.player.bloodPool) s := by
  simp only [wager, run_bind, run_round, hround, run_get, run_pure]

private theorem startHand_succeeds (hround : s.roundInProgress = true)
    (hidle : s.handInProgress = false)
    (hs : s.table.Printed) : Succeeds (startHand house) s := by
  obtain ⟨round, hround, hopen⟩ := s.roundInProgress_iff.mp hround
  refine .get_bind ?_
  rw [hround]
  dsimp only
  refine .refuseIf_bind (by simp [Round.isTerminal, hopen]) (.get_bind (.refuseIf_bind hidle ?_))
  refine .bind ⟨_, s, wager_run hround⟩ fun stake t hwager => ?_
  rw [wager_run hround] at hwager
  obtain ⟨hstake, rfl⟩ := EStateM.Result.ok.inj hwager
  have henter : Enters house s .startHand (s.openHand round stake) :=
    .startHand hround hopen hidle hstake
  have hready : Ready (s.openHand round stake) :=
    ⟨rfl, henter.handInProgress, henter.printed hs⟩
  refine .modify_bind ?_
  split
  · exact .modify_bind (closeByRound_succeeds (hready.bleeds (changePlayerPool_bleeds _ _)))
  · have hstaked := hready.bleeds (payStakes_bleeds _ stake)
    exact .modify_bind (unlessOver_succeeds hstaked fun _ => dealHand_succeeds hstaked)

theorem ensureAvailable_succeeds {move : Move} (hhand : s.handInProgress = true)
    (hmove : move ∈ s.availableMoves) : Succeeds (ensureAvailable move) s := by
  refine .get_bind (.refuseIf_bind (by simp [hhand]) ?_)
  exact ⟨(), s, refuseIf_eq_ok.mpr ⟨by simp [hmove], rfl⟩⟩

theorem draw_succeeds (hs : Ready s) (hmove : .draw ∈ s.availableMoves)
    (hcards : s.table.player.tutorialFinished = true →
      tutorialDeck.length ≤ s.table.cardsInPlay.length)
    (hheld : s.table.heldCards.length < tutorialDeck.length) : Succeeds (draw house) s := by
  refine (ensureAvailable_succeeds hs.hand hmove).bind fun _ t havailable => ?_
  obtain ⟨rfl, -, -⟩ := ensureAvailable_eq_ok havailable
  refine (deal_succeeds hs .player 1).bind fun cards u hdeal => ?_
  have hdeal := deal_deals hdeal
  have hlength := hdeal.length_eq (Nat.le_refl _) hcards hheld
  have hu := hs.deals hdeal
  cases cards with
  | nil => cases hlength
  | cons card cards =>
    obtain ⟨hand, hhand, -, hplayer, -⟩ := hu.exists_hand
    refine .hand_bind hhand (.ranks_bind hplayer fun ranks => .modify_bind (.modify_bind ?_))
    have hannounced : Ready (u.emit (.cardDrawn card (Score.total ranks))) :=
      ⟨hu.round, hu.hand, hu.printed⟩
    have hfire := hannounced.bleeds (fireCards_flows .handStart [card] _).bleeds
    refine .get_bind ?_
    split
    · exact (closeByRound_succeeds hfire).bind_pure _
    · split
      · exact (resolve_succeeds hfire).bind_pure _
      · exact succeeds_pure _

private theorem drawToStand_succeeds (hs : Ready s) (fuel : Nat) : Succeeds
    (drawToStand rules fuel) s := by
  induction fuel generalizing s with
  | zero => exact succeeds_pure _
  | succ fuel ih =>
    obtain ⟨hand, hhand, -, -, hdaimon⟩ := hs.exists_hand
    refine .hand_bind hhand (.ranks_bind hdaimon fun _ => ?_)
    split
    · exact succeeds_pure _
    · refine (deal_succeeds hs .daimon 1).bind fun cards t hdeal => ?_
      split
      · exact succeeds_pure _
      · exact ih (hs.deals (deal_deals hdeal))

theorem drawBound_succeeds : Succeeds drawBound s := by
  refine .get_bind ?_
  split <;> exact succeeds_pure _

theorem stand_succeeds (hs : Ready s) (hmove : .stand ∈ s.availableMoves) :
    Succeeds (stand house) s := by
  refine (ensureAvailable_succeeds hs.hand hmove).bind fun _ t havailable => ?_
  obtain ⟨rfl, hhand, hround⟩ := ensureAvailable_eq_ok havailable
  refine drawBound_succeeds.bind fun fuel u hbound => ?_
  rw [drawBound_eq_ok hbound]
  refine (drawToStand_succeeds hs fuel).bind fun _ v hdraws => ?_
  exact resolve_succeeds (hs.playsOn (drawToStand_playsOn hround hhand hdraws))

theorem surrender_succeeds (hs : Ready s) (hmove : .surrender ∈ s.availableMoves) :
    Succeeds (surrender house) s := by
  refine (ensureAvailable_succeeds hs.hand hmove).bind fun _ t havailable => ?_
  obtain ⟨rfl, -, -⟩ := ensureAvailable_eq_ok havailable
  have hfire := hs.bleeds (t.fireTable_flows house.catalog .onLoss).bleeds
  refine .modify_bind (unlessOver_succeeds hfire fun _ => ?_)
  obtain ⟨hand, hhand, -⟩ := hfire.exists_hand
  refine .hand_bind hhand (.modify_bind ?_)
  exact finishHand_succeeds (hfire.bleeds (refund_bleeds _ _ _)) _

private theorem startGame_succeeds (hidle : s.table.game?.any Game.isInProgress = false) :
    Succeeds startGame s :=
  .get_bind (.refuseIf_bind hidle (succeeds_modify _))

private theorem shuffleDeck_succeeds {round : Round} (hround : s.table.round? = some round)
    (hdeck : ∀ card ∈ s.table.player.deck, Face.IsPrinted card) :
    Succeeds (shuffleDeck rules) s := by
  refine .round_bind hround (.get_bind ?_)
  dsimp only
  split
  · refine (weightedShuffle_succeeds hdeck _).bind fun shoe t hshuffle => ?_
    obtain ⟨-, rng, rfl, -⟩ := weightedShuffle_perm hshuffle
    exact fillShoe_succeeds (by exact hround) shoe
  · exact fillShoe_succeeds hround _

end Play

theorem Catalog.exists_opening {catalog : Catalog} (h : catalog.validate = .ok ()) :
    ∃ daimon ∈ catalog.daimons, daimon.storySequence = 0 := by
  unfold validate fault? at h
  split at h
  · cases h
  · next hnone =>
    split at hnone
    · cases hnone
    · split at hnone
      · next hopens => simpa using hopens
      · cases hnone

theorem Catalog.exists_nextDaimon {catalog : Catalog} (h : catalog.validate = .ok ())
    (progression : Nat) (game : Game) (rng : Rng) :
    ∃ daimon game' rng', catalog.nextDaimon progression game rng = some (daimon, game', rng') := by
  obtain ⟨opening, hopening, hsequence⟩ := exists_opening h
  have hunlocked : 0 < (catalog.unlocked progression).length := by
    apply List.length_pos_of_mem (a := opening)
    simp [unlocked, hopening, hsequence]
  unfold nextDaimon pickDaimon Rng.pick
  simp only [dif_pos hunlocked, Option.map_some]
  split
  · split
    · exact ⟨_, _, _, rfl⟩
    · exact ⟨_, _, _, rfl⟩
  · exact ⟨_, _, _, rfl⟩

theorem Play.announceRound_succeeds {s : Session} {round : Round} (catalog : Catalog)
    (tutorial : Bool) (hround : s.table.round? = some round) :
    Succeeds (announceRound catalog tutorial) s :=
  .round_bind hround (.modify_bind (.modify_bind (succeeds_modify _)))

theorem Play.startRound_succeeds {s : Session} {house : House}
    (hvalid : house.catalog.validate = .ok ()) (hidle : s.roundInProgress = false)
    (hgame : s.table.game?.any Game.isInProgress = true) (hs : s.table.Printed) :
    Succeeds (startRound house) s := by
  obtain ⟨game, hgame, hopen⟩ := Option.any_eq_true _ _ |>.mp hgame
  obtain ⟨daimon, game', rng, hdaimon⟩ :=
    Catalog.exists_nextDaimon hvalid s.table.player.storyProgression game s.rng
  refine .get_bind (.refuseIf_bind hidle ?_)
  rw [Option.filter_eq_some_iff.mpr ⟨hgame, hopen⟩]
  dsimp only
  rw [hdaimon]
  refine .set_bind (.bind ?_ fun _ t hshuffle => ?_)
  · exact shuffleDeck_succeeds rfl hs.deck
  obtain ⟨round, shoe, rng', -, -, rfl⟩ := shuffleDeck_fills hshuffle
  exact announceRound_succeeds _ _ rfl

theorem Rank.points_pos (rank : Rank) : 1 ≤ rank.points := by
  cases rank <;> decide

theorem Score.length_le_total (hand : List Rank) : hand.length ≤ Score.total hand := by
  have hlow : hand.length ≤ hand.foldr (fun rank low => rank.points + low) 0 := by
    induction hand with
    | nil => exact Nat.le_refl 0
    | cons rank hand ih =>
      have hrank := rank.points_pos
      simp only [List.foldr_cons, List.length_cons]
      omega
  unfold total
  dsimp only
  split
  · omega
  · exact hlow

theorem Hand.Playable.length_lt {hand : Hand} (h : hand.Playable) :
    hand.cards.length < tutorialDeck.length := by
  obtain ⟨hdaimon, -, ranks, hranks, htotal, -⟩ := h
  have hplayer := ranksOf_length hranks
  have hlength := Score.length_le_total ranks
  have hdeck : tutorialDeck.length = 23 := rfl
  simp only [Hand.cards, List.length_append]
  omega

theorem Hand.Playable.isPlayerBust {hand : Hand} (h : hand.Playable) :
    hand.isPlayerBust = false := by
  obtain ⟨-, -, ranks, hranks, htotal, -⟩ := h
  unfold Hand.isPlayerBust
  rw [hranks]
  exact decide_eq_false (Nat.not_lt.mpr htotal)

/-- What is asked for to make a move. -/
def Move.request : Move → Request
  | draw => .draw
  | stand => .stand
  | doubleDown => .doubleDown
  | surrender => .surrender

private theorem tutorialMoves?_eq_some {dealt : Nat} {moves : List Move}
    (h : tutorialMoves? dealt = some moves) : moves ≠ [] ∧ .doubleDown ∉ moves := by
  unfold tutorialMoves? at h
  split at h <;> cases h <;> decide

/-- An open hand can be moved on, and no move is offered that nobody can make. -/
theorem Session.availableMoves_ne_nil {s : Session} (hnested : s.table.Playable)
    (hhand : s.handInProgress = true) :
    s.availableMoves ≠ [] ∧ .doubleDown ∉ s.availableMoves := by
  obtain ⟨hand, hhand, hopen⟩ := s.handInProgress_iff.mp hhand
  obtain ⟨hround, hplayable⟩ := hnested hand hhand hopen
  obtain ⟨round, hround, hgoing⟩ := Option.any_eq_true _ _ |>.mp hround
  unfold availableMoves
  rw [hhand, hround]
  dsimp only
  rw [if_pos ⟨hopen, hgoing⟩]
  split
  · next moves hmoves =>
    unfold scriptedMoves? at hmoves
    split at hmoves
    · cases hmoves
    · exact tutorialMoves?_eq_some hmoves
  · rw [hplayable.isPlayerBust]
    by_cases htwo : hand.playerCards.length = 2 <;> simp [htwo]

/-- The cards of the deck, and of a round in progress, are printed, and they are no fewer than
those of the tutorial. -/
structure Table.Lively (t : Table) : Prop where
  bounded : t.Bounded
  nests : t.Nests
  printed : t.Printed
  deck : tutorialDeck.length ≤ t.player.deck.length
  cards : t.CardsHold (tutorialDeck.length ≤ ·.length)

theorem Table.lively_new {house : House} (hhouse : house.Bounded) {player : Player}
    (h : player.IsNew house.rules) : ({ player } : Table).Lively where
  bounded := bounded_new hhouse h
  nests := Table.nests_new h
  printed := h.printed
  deck := by
    rw [h.deck]
    decide +kernel
  cards := nofun

theorem Transition.lively {house : House} {s s' : Session} {request : Request}
    (h : Transition house s request s') (hhouse : house.Bounded)
    (hsize : 23 ≤ house.rules.deckSize) (hs : s.table.Lively) (hsolvent : s'.table.Solvent) :
    s'.table.Lively where
  bounded := h.bounded hhouse hs.bounded hsolvent
  nests := h.nests (by omega) hs.nests
  printed := h.printed hs.printed
  deck := h.deck_holds (P := (tutorialDeck.length ≤ ·.length)) hs.deck
    fun _ hlength _ => hlength ▸ hsize
  cards := h.cardsHold enough_of_perm hs.deck hs.cards

theorem Table.Lively.ready {s : Session} (h : s.table.Lively) (hhand : s.handInProgress = true) :
    Play.Ready s := by
  obtain ⟨hand, hhand', hopen⟩ := s.handInProgress_iff.mp hhand
  obtain ⟨hround, -⟩ := h.nests.playable hand hhand' hopen
  exact ⟨Session.isSome_round_of_inProgress hround, hhand, h.printed⟩

/-- Every move that is offered can be made. -/
theorem Table.Lively.move_succeeds {s : Session} {house : House} (h : s.table.Lively)
    (hhand : s.handInProgress = true) {move : Move} (hmove : move ∈ s.availableMoves) :
    (move.request.play house).Succeeds s := by
  have hready := h.ready hhand
  cases move with
  | draw =>
    obtain ⟨hand, hhand', hopen⟩ := s.handInProgress_iff.mp hhand
    obtain ⟨hround, hplayable⟩ := h.nests.playable hand hhand' hopen
    have hheld : s.table.heldCards.length < tutorialDeck.length := by
      rw [heldCards_eq hhand' hopen]
      exact hplayable.length_lt
    exact (Play.draw_succeeds hready hmove (h.cards · hround) hheld).bind_pure _
  | stand => exact (Play.stand_succeeds hready hmove).bind_pure _
  | doubleDown => exact absurd hmove (Session.availableMoves_ne_nil h.nests.playable hhand).2
  | surrender => exact (Play.surrender_succeeds hready hmove).bind_pure _

namespace Service

/-- The service grants a request of the player. -/
def Grants (service : Service) (player : PlayerId) (request : Request) : Prop :=
  ∃ report after, service.perform player request = (.ok report, after)

variable {service : Service} {player : PlayerId} {table : Table} {request : Request}

theorem grants_of_succeeds (hhouse : service.house.Bounded) (hfiled : service.store.Filed)
    (hload : service.store.load player = .ok table) (htable : table.Bounded)
    (hfits : request = .startHand → table.StakeFits service.house.rules)
    (hplay : ∀ rng, (request.play service.house).Succeeds { table, rng }) :
    service.Grants player request := by
  cases hperform : service.perform player request with
  | mk result after =>
    cases result with
    | ok report => exact ⟨report, after, hperform⟩
    | error e =>
      obtain ⟨_, hload', -⟩ | ⟨before, rng, s', hload', hrun⟩ |
        ⟨before, rng, s', reply, _, hload', hrun, hpersist, -⟩ := perform_error_cases hperform
      · cases hload.symm.trans hload'
      · cases hload.symm.trans hload'
        obtain ⟨_, _, hok⟩ := hplay rng
        cases hrun.symm.trans hok
      · cases hload.symm.trans hload'
        obtain ⟨_, hok⟩ := exists_persist hhouse hfiled hload htable hfits hrun
        cases hpersist.symm.trans hok

theorem availableMoves_eq (hload : service.store.load player = .ok table) :
    ∃ rng, service.availableMoves player =
      (.ok { table, rng : Session }.availableMoves,
        { service with nonce := service.nonce + 1 }) := by
  unfold availableMoves openSession
  rw [hload]
  exact ⟨_, rfl⟩

private theorem lively_grant {house : House} (hhouse : house.Bounded)
    (hsize : 23 ≤ house.rules.deckSize)
    (grant : Grant) (h : grant.before.Lively) (hgrant : grant.Holds house) :
    grant.report.table.Lively := by
  have hsolvent := hgrant.solvent h.bounded.sound.hand
  obtain ⟨rng, s', htransition, htable⟩ := hgrant.transition
  rw [htable] at hsolvent ⊢
  exact htransition.lively hhouse hsize h hsolvent

/-- The small house with decks of full size, and a daimon that outlasts the first stake. -/
def largeHouse : House :=
  { smallHouse with rules := { smallHouse.rules with baseDaimonHealth := 40, deckSize := 52 } }

theorem largeHouse_bounded : largeHouse.Bounded where
  story := by decide
  playerHealth := by decide
  minWager := by decide
  wagerStep := by decide
  daimonHealth number doubled := by
    have hfactor : largeHouse.rules.daimonScalingFactor = 1 := rfl
    unfold Rules.daimonHealth
    simp only [hfactor, floatPower_one]
    cases doubled <;> decide +kernel

/-- The first hand of the tutorial is open. -/
def openRun : Service × List Grant :=
  [.startGame, .startRound, .startHand].foldl (record 1)
    ((createPlayer { house := largeHouse, seed := 7 } "Ada").2, [])

private theorem openRun_run : openRun.1.Run largeHouse openRun.2 :=
  Run.recordAll (.playerCreated (.opened 7 0 1) "Ada") 1 _

private theorem openRun_stored : ∃ table, openRun.1.store.load 1 = .ok table ∧
    table.hand?.any Hand.isInProgress = true := by
  have hstored : (openRun.1.store.load 1).toOption.any
      (fun table => table.hand?.any Hand.isInProgress) = true := by
    decide +kernel
  exact exists_of_any_toOption hstored

/-- The first round of the house's first player is open. -/
def firstRound (house : House) : Service × List Grant :=
  [.startGame, .startRound].foldl (record 1)
    ((createPlayer { house, seed := 7 } "Ada").2, [])

theorem firstRound_run (house : House) :
    (firstRound house).1.Run house (firstRound house).2 :=
  Run.recordAll (.playerCreated (.opened 7 0 1) "Ada") 1 _

/-- The large house for players with all the blood there can be, of which more than half is the
wager. -/
def lavishHouse : House :=
  { largeHouse with rules := { largeHouse.rules with
      basePlayerHealth := Amount.greatest, minWager := 4611686018427387905 } }

private theorem lavishHouse_bounded : lavishHouse.Bounded where
  story := by decide
  playerHealth := by decide
  minWager := by decide
  wagerStep := by decide
  daimonHealth := largeHouse_bounded.daimonHealth

/-- Why a request has been refused. -/
def refusal? (result : Except PlayError Report) : Option PlayError :=
  match result with
  | .error e => some e
  | .ok _ => none

private theorem refusal?_eq_some {result : Except PlayError Report} {e : PlayError}
    (h : refusal? result = some e) : result = .error e := by
  cases result with
  | error found => exact congrArg Except.error (Option.some.inj h)
  | ok => cases h

end Service

end BloodStakes
