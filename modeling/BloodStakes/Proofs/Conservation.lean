import BloodStakes.Proofs.Decks
import BloodStakes.Proofs.Run
import BloodStakes.Proofs.Standing

/-!
Cards are conserved. Once the tutorial is finished, the cards of a round are those of the deck
it was started with, on whichever pile or in whichever hand they are.
-/
namespace BloodStakes

theorem Table.pile_bloodless (t : Table) : t.bloodless.pile = t.pile := by
  unfold pile bloodless
  cases t.round? <;> rfl

theorem Table.cardsInPlay_bloodless (t : Table) : t.bloodless.cardsInPlay = t.cardsInPlay := by
  unfold cardsInPlay
  rw [t.pile_bloodless, t.heldCards_bloodless]

namespace Session

variable {s s' : Session}

theorem Bleeds.cardsInPlay (h : s.Bleeds s') : s'.table.cardsInPlay = s.table.cardsInPlay := by
  rw [← s'.table.cardsInPlay_bloodless, h.bloodless.1, s.table.cardsInPlay_bloodless]

theorem HandStep.cardsInPlay_perm (h : s.HandStep s')
    (hveteran : s.table.player.tutorialFinished = true) :
    s'.table.cardsInPlay.Perm s.table.cardsInPlay := by
  cases h with
  | flow h => rw [h.bleeds.cardsInPlay]
  | dealt => exact .refl _
  | drawn => exact .refl _
  | deal hround hhand hcount h => exact h.cardsInPlay_perm hhand hveteran

theorem PlaysOn.cardsInPlay_perm (h : s.PlaysOn s')
    (hveteran : s.table.player.tutorialFinished = true) :
    s'.table.cardsInPlay.Perm s.table.cardsInPlay := by
  induction h with
  | refl => exact .refl _
  | tail hplay step ih =>
    exact (step.cardsInPlay_perm ((PlaysOn.advances hplay).tutorialFinished hveteran)).trans ih

theorem Closes.cardsInPlay_perm {status : HandStatus} (h : s.Closes status s')
    (hstatus : status ≠ .inProgress) (hround : s.table.round?.isSome)
    (hopen : s.handInProgress = true) : s'.table.cardsInPlay.Perm s.table.cardsInPlay := by
  cases h with
  | @intro hand _ _ hhand _ _ =>
    obtain ⟨_, hhand', hopen⟩ := s.handInProgress_iff.mp hopen
    cases hhand.symm.trans hhand'
    obtain ⟨round, hround⟩ := Option.isSome_iff_exists.mp hround
    have hclosed : ({ hand with status } : Hand).isInProgress = false := by
      simpa [Hand.isInProgress] using hstatus
    simp [Table.cardsInPlay, Table.pile, Table.heldCards, Round.pile, closeHand, hround, hhand,
      hopen, hclosed]

theorem Concludes.cardsInPlay_perm (h : s.Concludes s') (hround : s.table.round?.isSome)
    (hopen : s.handInProgress = true) (hveteran : s.table.player.tutorialFinished = true) :
    s'.table.cardsInPlay.Perm s.table.cardsInPlay := by
  obtain ⟨t, status, hplay, hstatus, hclose⟩ := h.closes
  refine (hclose.cardsInPlay_perm hstatus ?_ ?_).trans (hplay.cardsInPlay_perm hveteran)
  · rw [isSome_round_of_steady hplay.steady]
    exact hround
  · rw [handInProgress_of_steady hplay.steady]
    exact hopen

theorem Concludes.isSome_round (h : s.Concludes s') :
    s'.table.round?.isSome = s.table.round?.isSome := by
  obtain ⟨t, status, hplay, -, hclose⟩ := h.closes
  rw [← isSome_round_of_steady hplay.steady]
  cases hclose with
  | intro hhand hplayer hdaimon => simp [closeHand]

end Session

section
variable {house : House} {s s' t : Session} {request : Request}

theorem Table.heldCards_of_idle (h : s.handInProgress = false) : s.table.heldCards = [] := by
  unfold Session.handInProgress at h
  unfold heldCards
  cases hhand : s.table.hand? with
  | none => rfl
  | some hand => simp_all

theorem Enters.cardsInPlay (h : Enters house s request t) :
    t.table.cardsInPlay = s.table.cardsInPlay := by
  cases h with
  | @startHand round stake hround hopen hidle hstake =>
    have hheld : s.table.heldCards = [] := Table.heldCards_of_idle hidle
    have hheld' : (s.openHand round stake).table.heldCards = [] := rfl
    have hpile : (s.openHand round stake).table.pile = s.table.pile := by
      simp [Table.pile, Round.pile, Session.openHand, hround]
    unfold Table.cardsInPlay
    rw [hheld, hheld', hpile]
  | move hmove hround hhand => rfl
  | equipToken hplayer hround hhand => rfl

theorem Enters.isSome_round (h : Enters house s request t) :
    t.table.round?.isSome = s.table.round?.isSome := by
  cases h with
  | startHand hround hopen hidle hstake =>
    rw [hround]
    rfl
  | move hmove hround hhand => rfl
  | equipToken hplayer hround hhand => rfl

theorem Enters.tutorialFinished (h : Enters house s request t) :
    t.table.player.tutorialFinished = s.table.player.tutorialFinished :=
  congrArg Standing.tutorialFinished h.standing

theorem Transition.startRound_cardsInPlay (h : Transition house s .startRound s')
    (hveteran : s.table.player.tutorialFinished = true) :
    s'.table.cardsInPlay.Perm s.table.player.deck := by
  cases h with
  | startRound hidle hgame hopen hdaimon ht hround hshoe hfire =>
    rw [if_pos hveteran] at hshoe
    rw [hfire.bleeds.cardsInPlay, ht]
    simpa [Table.cardsInPlay, Table.pile, Table.heldCards, Round.pile, Session.openRound]
      using hshoe
  | closed henter hbegin h => exact absurd rfl henter.ne_opening.2

/-- All requests but those for a new game or round keep the cards of the round, if there is
one, and start none. -/
theorem Transition.cardsInPlay_perm (h : Transition house s request s')
    (hgame : request ≠ .startGame) (hround : request ≠ .startRound) :
    s'.table.round?.isSome = s.table.round?.isSome ∧
      (s.table.player.tutorialFinished = true →
        s'.table.cardsInPlay.Perm s.table.cardsInPlay) := by
  cases h with
  | startGame hidle => exact absurd rfl hgame
  | startRound hidle hgame hopen hdaimon ht hround' hshoe hfire => exact absurd rfl hround
  | closed henter hbegin h =>
    have hbegun := hbegin.bleeds
    have hsome := Session.isSome_round_of_steady hbegun.steady
    have hhand := Session.handInProgress_of_steady hbegun.steady
    refine ⟨h.isSome_round.trans (hsome.trans henter.isSome_round), fun hveteran => ?_⟩
    rw [← henter.cardsInPlay, ← hbegun.cardsInPlay]
    exact h.cardsInPlay_perm
      (hsome.trans (Session.isSome_round_of_inProgress henter.roundInProgress))
      (hhand.trans henter.handInProgress)
      (hbegun.advances.tutorialFinished (henter.tutorialFinished.trans hveteran))
  | opened henter hbegin hgoing hdeal =>
    have hplay := henter.playsOn_opened hbegin hgoing hdeal
    have hbegun := hbegin.bleeds
    have hsome := Session.isSome_round_of_steady (hplay.steady.trans hbegun.steady)
    refine ⟨hsome.trans henter.isSome_round, fun hveteran => ?_⟩
    rw [← henter.cardsInPlay, ← hbegun.cardsInPlay]
    exact hplay.cardsInPlay_perm
      (hbegun.advances.tutorialFinished (henter.tutorialFinished.trans hveteran))
  | drawn henter hdeal hhand hranks hbust hfire hgoing =>
    have hplay := henter.playsOn_drawn hdeal hfire
    exact ⟨Session.isSome_round_of_steady hplay.steady, hplay.cardsInPlay_perm⟩
  | equipped hplayer hfire hidle hgoing =>
    have hsome := Session.isSome_round_of_steady hfire.bleeds.steady
    have hcards := hfire.bleeds.cardsInPlay
    exact ⟨hsome, fun _ => .of_eq hcards⟩
  | deckAssigned hranks hplayer => exact ⟨rfl, fun _ => .refl _⟩
  | rewardClaimed hround' hwon hclaim h =>
    obtain ⟨tokens, progression, htable⟩ := Session.claimed_table h
    rw [htable]
    refine ⟨by simp [hround'], fun _ => .of_eq ?_⟩
    simp [Table.cardsInPlay, Table.pile, Table.heldCards, Round.pile, hround']

end

/-- While a round is in progress after the tutorial, `P` holds of its cards. -/
def Table.CardsHold (P : List CardId → Prop) (t : Table) : Prop :=
  t.player.tutorialFinished = true → t.round?.any Round.isInProgress = true → P t.cardsInPlay

theorem Enters.cardsHold {P : List CardId → Prop} {house : House} {s t : Session}
    {request : Request} (h : Enters house s request t) (hs : s.table.CardsHold P) :
    t.table.CardsHold P := by
  intro hveteran hopen
  rw [h.cardsInPlay]
  have hbefore : s.roundInProgress = true := by
    rw [Session.roundInProgress_eq_standing, ← h.standing, ← Session.roundInProgress_eq_standing]
    exact hopen
  exact hs (h.tutorialFinished.symm.trans hveteran) hbefore

theorem Session.Bleeds.cardsHold {P : List CardId → Prop} {s s' : Session} (h : s.Bleeds s')
    (hs : s.table.CardsHold P) : s'.table.CardsHold P := by
  intro hveteran hopen
  have hstanding := h.advances.of_roundInProgress hopen
  rw [h.cardsInPlay]
  exact hs ((congrArg Standing.tutorialFinished hstanding).symm.trans hveteran)
    (h.advances.roundInProgress hopen)

section
variable {P : List CardId → Prop} (hP : ∀ a b : List CardId, a.Perm b → P b → P a)
include hP

theorem Session.Deals.cardsHold {s s' : Session} {side : Side} {count : Nat}
    {cards : List CardId} (h : s.Deals side count cards s') (hround : s.roundInProgress = true)
    (hhand : s.handInProgress = true) (hs : s.table.CardsHold P) : s'.table.CardsHold P := by
  intro hveteran hopen
  have hsame := congrArg Standing.tutorialFinished (h.standing hround)
  have hbefore := hsame.symm.trans hveteran
  exact hP _ _ (h.cardsInPlay_perm hhand hbefore) (hs hbefore hround)

theorem Session.HandStep.cardsHold {s s' : Session} (h : s.HandStep s') (hs : s.table.CardsHold P) :
    s'.table.CardsHold P := by
  intro hveteran hopen
  have hstanding := h.advances.of_roundInProgress hopen
  have hbefore : s.table.player.tutorialFinished = true :=
    (congrArg Standing.tutorialFinished hstanding).symm.trans hveteran
  exact hP _ _ (h.cardsInPlay_perm hbefore) (hs hbefore (h.advances.roundInProgress hopen))

theorem Session.PlaysOn.cardsHold {s s' : Session} (h : s.PlaysOn s') (hs : s.table.CardsHold P) :
    s'.table.CardsHold P := by
  induction h with
  | refl => exact hs
  | tail _ step ih => exact step.cardsHold hP ih

theorem Transition.cardsHold {house : House} {s s' : Session} {request : Request}
    (h : Transition house s request s') (hdeck : P s.table.player.deck) (hs : s.table.CardsHold P) :
    s'.table.CardsHold P := by
  intro hveteran hopen
  obtain ⟨hfinished, hbefore⟩ := h.of_roundInProgress hopen
  rw [hfinished] at hveteran
  by_cases hstart : request = .startRound
  · rw [hstart] at h
    exact hP _ _ (h.startRound_cardsInPlay hveteran) hdeck
  · obtain ⟨hgame, hopen'⟩ := hbefore hstart
    exact hP _ _ ((h.cardsInPlay_perm hgame hstart).2 hveteran) (hs hveteran hopen')

end

theorem Transition.deck_holds {P : List CardId → Prop} {house : House} {s s' : Session}
    {request : Request} (h : Transition house s request s') (hdeck : P s.table.player.deck)
    (hvalid : ∀ cards : List CardId, cards.length = house.rules.deckSize → cards.Nodup → P cards) :
    P s'.table.player.deck := by
  obtain hsame | hdeck' := h.lasting.2
  · rw [hsame]
    exact hdeck
  · obtain ⟨hsize, hnodup, -⟩ := Deck.validate_eq_ok.mp hdeck'
    exact hvalid _ hsize hnodup

/-- The table on which the current round was started, from what has been granted, the latest
grant first; a new game ends it. -/
def outset? : List Grant → Option Table
  | [] => none
  | grant :: history =>
    match grant.request with
    | .startRound => some grant.before
    | .startGame => none
    | _ => outset? history

theorem outset?_cons {grant : Grant} {history : List Grant} (hgame : grant.request ≠ .startGame)
    (hround : grant.request ≠ .startRound) : outset? (grant :: history) = outset? history := by
  simp only [outset?]

/-- If there is a round, it was started on a table of which the deck has no card twice; if
the tutorial was finished there, it still is, and the cards of the round are those of the
deck. -/
def Conserves (history : List Grant) (t : Table) : Prop :=
  t.player.deck.Nodup ∧ (t.round?.isSome → ∃ outset, outset? history = some outset ∧
    outset.player.deck.Nodup ∧ (outset.player.tutorialFinished = true →
      t.player.tutorialFinished = true ∧ t.cardsInPlay.Perm outset.player.deck))

theorem conserves_new {rules : Rules} {player : Player} (h : player.IsNew rules) :
    Conserves [] { player } := by
  refine ⟨?_, nofun⟩
  rw [h.deck]
  exact starterDeck_nodup

theorem conserves_grant {house : House} (history : List Grant) (grant : Grant)
    (h : Conserves history grant.before) (hgrant : grant.Holds house) :
    Conserves (grant :: history) grant.report.table := by
  obtain ⟨hdeck, hconserved⟩ := h
  obtain ⟨rng, s', htransition, htable⟩ := hgrant.transition
  rw [htable]
  refine ⟨htransition.deck_holds hdeck fun _ _ hnodup => hnodup, fun hround => ?_⟩
  by_cases hstart : grant.request = .startRound
  · refine ⟨grant.before, by simp [outset?, hstart], hdeck, fun hveteran => ?_⟩
    refine ⟨htransition.tutorialFinished hveteran, ?_⟩
    rw [hstart] at htransition
    exact htransition.startRound_cardsInPlay hveteran
  · have hgame : grant.request ≠ .startGame := by
      intro hgame
      rw [hgame] at htransition
      rw [htransition.startGame_eq] at hround
      cases hround
    obtain ⟨hsome, hcards⟩ := htransition.cardsInPlay_perm hgame hstart
    rw [hsome] at hround
    obtain ⟨outset, houtset, hnodup, hcards'⟩ := hconserved hround
    refine ⟨outset, (outset?_cons hgame hstart).trans houtset, hnodup, fun hveteran => ?_⟩
    obtain ⟨hfinished, hperm⟩ := hcards' hveteran
    exact ⟨htransition.tutorialFinished hfinished, (hcards hfinished).trans hperm⟩

/-- In every run, a table with a round was granted its start; if the tutorial was finished by
then, the shoe, the discard pile and the open hand together hold the deck of that moment, each
card once, whatever deck has been assigned since. -/
theorem Service.Run.cards_conserved {house : House} {service : Service} {log : List Grant}
    (h : service.Run house log) {player : PlayerId} {table : Table} {round : Round}
    (hload : service.store.load player = .ok table) (hround : table.round? = some round) :
    ∃ outset, outset? (historyOf player log) = some outset ∧
      (outset.player.tutorialFinished = true →
        table.cardsInPlay.Perm outset.player.deck ∧ table.cardsInPlay.Nodup) := by
  obtain ⟨-, hconserved⟩ := Run.holds (fun _ => conserves_new) (fun _ _ => conserves_grant _ _)
    h hload
  obtain ⟨outset, houtset, hnodup, hcards⟩ := hconserved (hround ▸ rfl)
  refine ⟨outset, houtset, fun hveteran => ?_⟩
  have hperm := (hcards hveteran).2
  exact ⟨hperm, hperm.nodup_iff.mpr hnodup⟩

theorem Service.Run.cards_conserved_shortRun :
    ∃ table outset, shortRun.1.store.load 1 = .ok table ∧
      outset? (historyOf 1 shortRun.2) = some outset ∧
      outset.player.tutorialFinished = true ∧ table.cardsInPlay.Perm outset.player.deck := by
  have hfinished : (outset? (historyOf 1 shortRun.2)).all (·.player.tutorialFinished) = true := by
    decide +kernel
  obtain ⟨table, hload, hround, -⟩ := shortRun_stored
  obtain ⟨round, hround⟩ := Option.isSome_iff_exists.mp hround
  obtain ⟨outset, houtset, hcards⟩ := shortRun_run.cards_conserved hload hround
  rw [houtset] at hfinished
  exact ⟨table, outset, hload, houtset, hfinished, (hcards hfinished).1⟩

end BloodStakes
