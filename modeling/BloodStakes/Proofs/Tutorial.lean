import BloodStakes.Proofs.Printed

/-!
The cards of the tutorial. An empty shoe is refilled with all tutorial cards that are not in the
hand, so none is lost or doubled, unless a card has just been drawn that has not come to the
hand yet: then it goes back into the shoe as well.
-/
namespace BloodStakes

private theorem filter_append_perm {deck others held : List CardId} (hdeck : deck.Nodup)
    (h : (others ++ held).Perm deck) :
    ((deck.filter fun card => !held.contains card) ++ held).Perm deck := by
  have hnodup : (others ++ held).Nodup := h.nodup_iff.mpr hdeck
  have hheld := (List.nodup_append.mp hnodup).2.1
  have hdisjoint : ((deck.filter fun card => !held.contains card) ++ held).Nodup := by
    refine List.nodup_append.mpr ⟨hdeck.filter _, hheld, ?_⟩
    rintro card hcard _ hother rfl
    simp [hother] at hcard
  refine (List.perm_ext_iff_of_nodup hdisjoint hdeck).mpr fun card => ?_
  rw [List.mem_append, List.mem_filter]
  have hmem := h.mem_iff (a := card)
  by_cases hcard : card ∈ held
  · simpa [hcard] using hmem
  · simp [hcard]

namespace Session

variable {s s' t : Session} {cards : List CardId}

theorem Draws.pile_perm_of_le (h : s.Draws cards s') (hshoe : cards.length ≤ s.table.shoe.length) :
    (cards ++ s'.table.pile).Perm s.table.pile ∧
      s'.table.shoe.length + cards.length = s.table.shoe.length := by
  induction h with
  | done s => exact ⟨.refl _, rfl⟩
  | refill rng hround hempty hrefill _ ih =>
    simp [Table.shoe, hround, hempty] at hshoe
  | @take s s' round card shoe cards hround hcard _ ih =>
    have hlength : cards.length ≤ shoe.length := by
      simpa [Table.shoe, hround, hcard] using hshoe
    obtain ⟨hperm, hleft⟩ := ih (by simpa [Table.shoe] using hlength)
    refine ⟨?_, ?_⟩
    · simpa [Table.pile, Round.pile, hround, hcard] using hperm.cons card
    · simp only [Table.shoe, hround, hcard, putRound_table, Option.map_some, Option.getD_some,
        List.length_cons] at hleft ⊢
      omega

/-- With one card to be drawn, or two that the shoe can give before it runs empty, the cards of
the tutorial stay as they are. -/
theorem Draws.tutorial_perm (h : s.Draws cards s')
    (htutorial : s.table.player.tutorialFinished = false)
    (hcards : s.table.cardsInPlay.Perm tutorialDeck)
    (hfew : cards.length ≤ 1 ∨
      cards.length = 2 ∧ s.table.heldCards = [] ∧ s.table.shoe.length ≠ 1) :
    (cards ++ s'.table.pile ++ s.table.heldCards).Perm tutorialDeck := by
  induction h with
  | done s => exact hcards
  | @refill s s' round card shoe cards rng hround hempty hrefill _ ih =>
    unfold Refills at hrefill
    rw [htutorial, if_neg (by decide)] at hrefill
    have hheld : (round.discard ++ s.table.heldCards).Perm tutorialDeck := by
      simpa [Table.cardsInPlay, Table.pile, Round.pile, hround, hempty] using hcards
    have hfilled := filter_append_perm tutorialDeck_nodup hheld
    refine ih htutorial ?_ ?_
    · rw [← hrefill] at hfilled
      simpa [Table.cardsInPlay, Table.pile, Round.pile, Table.heldCards] using hfilled
    · obtain hone | ⟨htwo, hnone, -⟩ := hfew
      · exact .inl hone
      · have hfull : shoe.length ≠ 1 := by
          rw [hrefill, hnone]
          decide
        exact .inr ⟨htwo, hnone, by simpa [Table.shoe] using hfull⟩
  | @take s s' round card shoe cards hround hshoe rest _ =>
    have henough : cards.length ≤ shoe.length := by
      obtain hone | ⟨htwo, -, hshoe'⟩ := hfew
      · simp only [List.length_cons] at hone
        omega
      · simp only [Table.shoe, hround, hshoe, Option.map_some, Option.getD_some,
          List.length_cons] at hshoe' htwo
        omega
    obtain ⟨hperm, -⟩ := rest.pile_perm_of_le (by simpa [Table.shoe] using henough)
    have hpile : (card :: (cards ++ s'.table.pile)).Perm s.table.pile := by
      simpa [Table.pile, Round.pile, hround, hshoe] using hperm.cons card
    exact (hpile.append_right _).trans hcards

/-- The cards in play are those of the tutorial, as long as it lasts; and a shoe from which the
first cards of a hand are dealt is not down to its last card. -/
structure Tutored (s : Session) : Prop where
  cards : s.table.cardsInPlay.Perm tutorialDeck
  unfinished : s.roundInProgress = true → s.table.player.tutorialFinished = false
  shoe : s.table.heldCards = [] → s.table.shoe.length ≠ 1

theorem Deals.tutored {side : Side} {count : Nat} (h : s.Deals side count cards s')
    (hround : s.roundInProgress = true) (hhand : s.handInProgress = true)
    (hcount : count = 1 ∨ count = 2 ∧ s.table.heldCards = []) (hs : s.Tutored) : s'.Tutored := by
  have hunfinished := hs.unfinished hround
  have hfew : cards.length ≤ 1 ∨
      cards.length = 2 ∧ s.table.heldCards = [] ∧ s.table.shoe.length ≠ 1 := by
    have hlength := h.length_le
    obtain rfl | ⟨rfl, hnone⟩ := hcount
    · exact .inl hlength
    · rcases Nat.lt_or_ge cards.length 2 with hlt | hge
      · exact .inl (Nat.le_of_lt_succ hlt)
      · exact .inr ⟨Nat.le_antisymm hlength hge, hnone, hs.shoe hnone⟩
  have hcards := h.cardsInPlay_perm_of_draws hhand fun _ hdraws =>
    hdraws.tutorial_perm hunfinished hs.cards hfew
  obtain ⟨t, hdraws, -, hshoe, hplayer, hheld⟩ := h.draws hhand
  refine ⟨hcards, fun _ => ?_, fun hnone => ?_⟩
  · exact (congrArg Player.tutorialFinished hplayer).trans hunfinished
  · -- nothing is held, so nothing has been drawn
    rw [hnone] at hheld
    obtain ⟨rfl, hnone'⟩ := List.append_eq_nil_iff.mp hheld.nil_eq.symm
    cases hdraws with
    | done => exact hshoe ▸ hs.shoe hnone'

theorem Bleeds.tutored (h : s.Bleeds s') (hs : s.Tutored) : s'.Tutored := by
  refine ⟨h.cardsInPlay ▸ hs.cards, fun hopen => ?_, fun hnone => ?_⟩
  · have hstanding := h.advances.of_roundInProgress hopen
    have hunfinished := hs.unfinished (h.advances.roundInProgress hopen)
    exact (congrArg Standing.tutorialFinished hstanding).trans hunfinished
  · rw [h.shoe]
    exact hs.shoe (h.heldCards ▸ hnone)

theorem HandStep.tutored (h : s.HandStep s') (hs : s.Tutored) : s'.Tutored := by
  cases h with
  | flow h => exact h.bleeds.tutored hs
  | dealt => exact ⟨hs.cards, hs.unfinished, hs.shoe⟩
  | drawn => exact ⟨hs.cards, hs.unfinished, hs.shoe⟩
  | deal hround hhand hcount h => exact h.tutored hround hhand hcount hs

theorem PlaysOn.tutored (h : s.PlaysOn s') (hs : s.Tutored) : s'.Tutored := by
  induction h with
  | refl => exact hs
  | tail _ step ih => exact step.tutored ih

theorem Concludes.tutorial_perm (h : s.Concludes s') (hround : s.table.round?.isSome)
    (hhand : s.handInProgress = true) (hs : s.Tutored) :
    s'.table.cardsInPlay.Perm tutorialDeck := by
  obtain ⟨t, status, hplay, hstatus, hclose⟩ := h.closes
  have hround' := (isSome_round_of_steady hplay.steady).trans hround
  have hhand' := (handInProgress_of_steady hplay.steady).trans hhand
  exact (hclose.cardsInPlay_perm hstatus hround' hhand').trans (hplay.tutored hs).cards

end Session

variable {house : House} {s s' t : Session} {request : Request}

theorem Enters.tutored (h : Enters house s request t) (hs : s.Tutored) : t.Tutored := by
  have hgoing : s.roundInProgress = true := by
    rw [Session.roundInProgress_eq_standing, ← h.standing, ← Session.roundInProgress_eq_standing]
    exact h.roundInProgress
  refine ⟨h.cardsInPlay ▸ hs.cards, fun _ => ?_, fun hnone => ?_⟩
  · exact h.tutorialFinished.trans (hs.unfinished hgoing)
  · cases h with
    | startHand hround hopen hidle hstake =>
      have hheld := hs.shoe (Table.heldCards_of_idle hidle)
      simpa [Table.shoe, Session.openHand, hround] using hheld
    | move hmove hround hhand => exact hs.shoe hnone
    | equipToken hplayer hround hhand => exact hs.shoe hnone

theorem Transition.tutorial_perm (h : Transition house s request s')
    (hgame : request ≠ .startGame) (hround : request ≠ .startRound) (hs : s.Tutored) :
    s'.table.cardsInPlay.Perm tutorialDeck := by
  cases h with
  | startGame hidle => exact absurd rfl hgame
  | startRound hidle hgame hopen hdaimon ht hround' hshoe hfire => exact absurd rfl hround
  | closed henter hbegin h =>
    have hbegun := hbegin.bleeds
    have hsome := Session.isSome_round_of_steady hbegun.steady
    have hhand := Session.handInProgress_of_steady hbegun.steady
    exact h.tutorial_perm (hsome.trans (Session.isSome_round_of_inProgress henter.roundInProgress))
      (hhand.trans henter.handInProgress) (hbegun.tutored (henter.tutored hs))
  | opened henter hbegin hgoing hdeal =>
    have hbegun := hbegin.bleeds.tutored (henter.tutored hs)
    exact ((henter.playsOn_opened hbegin hgoing hdeal).tutored hbegun).cards
  | drawn henter hdeal hhand hranks hbust hfire hgoing =>
    exact ((henter.playsOn_drawn hdeal hfire).tutored hs).cards
  | equipped hplayer hfire hidle hgoing =>
    have hcards := hfire.bleeds.cardsInPlay
    exact hcards ▸ hs.cards
  | deckAssigned hranks hplayer => exact hs.cards
  | rewardClaimed hround' hwon hclaim h =>
    obtain ⟨tokens, progression, htable⟩ := Session.claimed_table h
    rw [htable]
    simpa [Table.cardsInPlay, Table.pile, Table.heldCards, Round.pile, hround'] using hs.cards

/-- Whether the play is granted and leaves a session with the property. -/
def Play.leaves {α : Type} (play : Play α) (s : Session) (property : Session → Bool) : Bool :=
  match play.run s with
  | .ok _ s' => property s'
  | .error _ _ => false

theorem Play.exists_of_leaves {α : Type} {play : Play α} {property : Session → Bool}
    (h : play.leaves s property = true) :
    ∃ a s', play.run s = .ok a s' ∧ property s' = true := by
  unfold leaves at h
  split at h
  · next a s' hrun => exact ⟨a, s', hrun, h⟩
  · cases h

/-- In a round of the tutorial in which every tutorial card is in play once, it is so again after
every request of a hand, and no card is both in the hand and in the shoe, unless the request
finds nothing held and one card left in the shoe. -/
theorem Play.tutorial_conserved {reply : Reply}
    (hrequest : request ∈ [.startHand, .draw, .stand, .surrender])
    (htutorial : s.table.player.tutorialFinished = false) (_ : s.roundInProgress = true)
    (hcards : s.table.cardsInPlay.Perm tutorialDeck)
    (hshoe : s.table.heldCards = [] → s.table.shoe.length ≠ 1)
    (hrun : (request.play house).run s = .ok reply s') :
    s'.table.cardsInPlay.Perm tutorialDeck ∧
      ∀ card ∈ s'.table.heldCards, card ∉ s'.table.shoe := by
  have hgame : request ≠ .startGame := by
    rintro rfl
    simp at hrequest
  have hstart : request ≠ .startRound := by
    rintro rfl
    simp at hrequest
  have hperm := (request_transition hrun).tutorial_perm hgame hstart
    ⟨hcards, fun _ => htutorial, hshoe⟩
  refine ⟨hperm, fun card hheld hcard => ?_⟩
  have hnodup := hperm.nodup_iff.mpr Session.tutorialDeck_nodup
  have hpile : card ∈ s'.table.pile := by
    unfold Table.shoe at hcard
    unfold Table.pile
    cases hround' : s'.table.round? with
    | none => simp [hround'] at hcard
    | some round =>
      have hshoe : card ∈ round.shoe := by simpa [hround'] using hcard
      exact List.mem_append_left _ hshoe
  exact (List.nodup_append.mp hnodup).2.2 card hpile card hheld rfl

/-- A round of the tutorial between two hands. -/
def Session.tutorialRound (shoe discard : List CardId) : Session where
  table := {
    player := .ofStarter 1 "Ada" starterDeck {}
    game? := some { roundsPlayed := 1 }
    round? := some {
      number := 1
      daimon := 1
      daimonPool := 2500
      daimonMaximum := 2500
      ceiling := 5000
      handsPlayed := 0
      shoe
      discard
      status := .inProgress } }
  rng := .ofSeed 7

theorem Session.tutorialRound_printed {shoe discard : List CardId} {hand : Hand}
    (hpile : ∀ card ∈ shoe ++ discard, Face.IsPrinted card)
    (hhand : ∀ card ∈ hand.cards, Face.IsPrinted card) :
    ((Session.tutorialRound shoe discard).putHand hand).table.Printed := by
  have hdeck : ((Session.tutorialRound shoe discard).putHand hand).table.player.deck =
      starterDeck := by
    simp only [Session.tutorialRound, Session.putHand, Player.ofStarter]
  refine ⟨hdeck ▸ starterDeck_isPrinted, hpile, fun _ h => ?_⟩
  cases h
  exact hhand

theorem Play.tutorial_conserved_first_hand :
    (Session.tutorialRound tutorialDeck []).table.cardsInPlay.Perm tutorialDeck ∧
      ∃ reply s', (Request.startHand.play {}).run (.tutorialRound tutorialDeck []) =
          .ok reply s' ∧
        s'.table.cardsInPlay.Perm tutorialDeck := by
  have hcards : (Session.tutorialRound tutorialDeck []).table.cardsInPlay.Perm tutorialDeck := by
    decide
  have hgranted : ∃ reply s', (Request.startHand.play {}).run (.tutorialRound tutorialDeck []) =
      .ok reply s' := ⟨_, _, rfl⟩
  obtain ⟨reply, s', hrun⟩ := hgranted
  have hconserved :=
    Play.tutorial_conserved (by decide) rfl rfl hcards (fun _ => by decide) hrun
  exact ⟨hcards, reply, s', hrun, hconserved.1⟩

/-- The last card of the shoe goes to the player and, with the refill for the second card, back
into the shoe. -/
theorem Play.tutorial_not_conserved_last_card :
    (Session.tutorialRound [292] (tutorialDeck.erase 292)).table.cardsInPlay.Perm tutorialDeck ∧
      ∃ reply s', (Request.startHand.play {}).run
            (.tutorialRound [292] (tutorialDeck.erase 292)) = .ok reply s' ∧
        ¬ s'.table.cardsInPlay.Perm tutorialDeck ∧
        292 ∈ s'.table.heldCards ∧ 292 ∈ s'.table.shoe := by
  have hleaves : Play.leaves (Request.startHand.play {})
      (.tutorialRound [292] (tutorialDeck.erase 292)) (fun s' =>
        !s'.table.cardsInPlay.isPerm tutorialDeck && s'.table.heldCards.contains 292 &&
          s'.table.shoe.contains 292) = true := by
    decide +kernel
  obtain ⟨reply, s', hrun, hcards⟩ := Play.exists_of_leaves hleaves
  simp only [Bool.and_eq_true, Bool.not_eq_true', List.contains_iff_mem] at hcards
  obtain ⟨⟨hlost, hheld⟩, hshoe⟩ := hcards
  refine ⟨by decide +kernel, reply, s', hrun, fun hperm => ?_, hheld, hshoe⟩
  rw [List.isPerm_iff.mpr hperm] at hlost
  cases hlost

theorem Session.Draws.refilled_perm {cards : List CardId} {card : CardId}
    (h : s.Draws (card :: cards) s') (htutorial : s.table.player.tutorialFinished = false)
    (hheld : s.table.heldCards = []) (hshoe : s.table.shoe = [])
    (hfew : (card :: cards).length ≤ tutorialDeck.length) :
    (card :: cards ++ s'.table.pile).Perm tutorialDeck ∧
      s'.table.shoe.length + (card :: cards).length = tutorialDeck.length := by
  cases h with
  | take hround hfirst rest => simp [Table.shoe, hround, hfirst] at hshoe
  | @refill _ _ round _ shoe _ rng hround hempty hrefill rest =>
    unfold Refills at hrefill
    rw [htutorial, if_neg (by decide), hheld] at hrefill
    have hfull : shoe = tutorialDeck := hrefill.trans (by decide)
    rw [hfull] at rest
    obtain ⟨hperm, hleft⟩ := rest.pile_perm_of_le hfew
    exact ⟨by simpa [Table.pile, Round.pile] using hperm, hleft⟩

theorem Session.Draws.doubled_perm {cards : List CardId} {card : CardId} (h : s.Draws cards s')
    (htutorial : s.table.player.tutorialFinished = false) (hheld : s.table.heldCards = [])
    (hshoe : s.table.shoe = [card]) (htwo : cards.length = 2) :
    (cards ++ s'.table.pile).Perm (card :: tutorialDeck) ∧ 1 ≤ s'.table.shoe.length := by
  cases h with
  | done => cases htwo
  | refill rng hround hempty hrefill rest => simp [Table.shoe, hround, hempty] at hshoe
  | @take _ _ round first shoe cards hround hfirst rest =>
    obtain ⟨rfl, rfl⟩ : first = card ∧ shoe = [] := by
      simpa [Table.shoe, hround, hfirst] using hshoe
    cases cards with
    | nil => cases htwo
    | cons second cards =>
      have hone : (second :: cards).length = 1 := Nat.succ.inj htwo
      have hdeck : tutorialDeck.length = 23 := rfl
      obtain ⟨hperm, hleft⟩ := rest.refilled_perm htutorial hheld rfl (by omega)
      exact ⟨hperm.cons first, by omega⟩

theorem Session.OpeningDeal.doubled_perm {card : CardId} (h : s.OpeningDeal s')
    (hhand : s.handInProgress = true) (htutorial : s.table.player.tutorialFinished = false)
    (hshoe : s.table.shoe = [card]) : s'.table.cardsInPlay.Perm (card :: tutorialDeck) := by
  cases h with
  | @intro t u _ cards more dealt _ hheld hplayer hdaimon hdealt hfire hgoing hranks hnatural =>
    have htwo : cards.length = 2 := by
      refine hplayer.length_eq (n := 2) (by decide) (fun hveteran => ?_) (by simp [hheld])
      rw [htutorial] at hveteran
      cases hveteran
    have hfirst := hplayer.cardsInPlay_perm_of_draws hhand fun v hdraws => by
      rw [hheld, List.append_nil]
      exact (hdraws.doubled_perm htutorial hheld hshoe htwo).1
    obtain ⟨v, hdraws, -, hshoe', -, -⟩ := hplayer.draws hhand
    have hleft : more.length ≤ t.table.shoe.length := by
      rw [hshoe']
      exact Nat.le_trans hdaimon.length_le (hdraws.doubled_perm htutorial hheld hshoe htwo).2
    have hhand' := (handInProgress_of_steady hplayer.steady).trans hhand
    have hsecond := hdaimon.cardsInPlay_perm_of_draws hhand' fun _ hdraws =>
      (hdraws.pile_perm_of_le hleft).1.append_right _
    exact hfire.bleeds.cardsInPlay ▸ hsecond.trans hfirst

/-- A hand that is opened with the last card of the shoe, and stays open, puts that card into
play twice. -/
theorem Transition.tutorial_doubled {card : CardId} (h : Transition house s .startHand s')
    (htutorial : s.table.player.tutorialFinished = false) (hshoe : s.table.shoe = [card])
    (hopen : s'.handInProgress = true) :
    s'.table.cardsInPlay.Perm (card :: tutorialDeck) := by
  cases h with
  | closed henter hbegin h =>
    obtain ⟨t, status, hplay, hstatus, hclose⟩ := h.closes
    rw [hclose.handInProgress hstatus] at hopen
    cases hopen
  | @opened t u _ henter hbegin hgoing hdeal =>
    have hstakes := hbegin.bleeds
    obtain ⟨hround, hhand⟩ := henter.open_of_begins hbegin hgoing
    have hfinished : u.table.player.tutorialFinished = t.table.player.tutorialFinished :=
      congrArg Standing.tutorialFinished (hstakes.advances.of_roundInProgress hround)
    refine hdeal.doubled_perm hhand ?_ ?_
    · exact hfinished.trans (henter.tutorialFinished.trans htutorial)
    · rw [hstakes.shoe]
      cases henter with
      | startHand hround hopen hidle hstake =>
        simpa [Table.shoe, Session.openHand, hround] using hshoe
      | move hmove => simp at hmove

end BloodStakes
