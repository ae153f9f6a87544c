import Mathlib.Data.List.Perm.Subperm
import BloodStakes.Proofs.Conservation

/-!
Open hands. A hand that a request leaves open lies in a round in progress and can be played:
its deals were complete, and neither a natural nor a bust has been left unsettled.
-/
namespace BloodStakes

theorem ranksOf_length {cards : List CardId} {ranks : List Rank} (h : ranksOf cards = .ok ranks) :
    ranks.length = cards.length := by
  induction cards generalizing ranks with
  | nil =>
    cases h
    rfl
  | cons card cards ih =>
    unfold ranksOf at h
    split at h
    · cases h
    · split at h
      · next rest hrest =>
        cases h
        simp only [List.length_cons, ih hrest]
      · cases h

theorem Rank.points_le (rank : Rank) : rank.points ≤ 10 := by
  cases rank <;> decide

theorem Score.low_le (hand : List Rank) :
    hand.foldr (fun rank low => rank.points + low) 0 ≤ 10 * hand.length := by
  induction hand with
  | nil => exact Nat.le_refl 0
  | cons rank hand ih =>
    have hrank := rank.points_le
    simp only [List.foldr_cons, List.length_cons]
    omega

theorem Score.total_le_of_two {hand : List Rank} (h : hand.length = 2) :
    Score.total hand ≤ Score.limit := by
  have hlow := low_le hand
  unfold Score.total Score.limit
  dsimp only
  split
  · next hsoft => exact hsoft.2
  · omega

theorem enough_of_perm {n : Nat} (a b : List CardId) (h : a.Perm b) (hb : n ≤ b.length) :
    n ≤ a.length :=
  h.length_eq ▸ hb

namespace Session

variable {s s' : Session} {n : Nat}

theorem Draws.not_dry {cards : List CardId} (h : s.Draws cards s') (hn : n ≤ tutorialDeck.length)
    (hcards : s.table.player.tutorialFinished = true → n ≤ s.table.cardsInPlay.length)
    (hfew : s.table.heldCards.length + cards.length < n) : ¬ s'.Dry := by
  rintro ⟨round, hround, hempty, hrefill⟩
  unfold Refills at hrefill
  rw [h.player, h.heldCards] at hrefill
  split at hrefill
  · next hveteran =>
    have hpile : s'.table.pile = [] := by
      simp [Table.pile, Round.pile, hround, hempty, hrefill.nil_eq.symm]
    have htaken := (h.pile_perm hveteran).length_eq
    have henough := hcards hveteran
    simp only [Table.cardsInPlay, List.length_append] at henough
    rw [hpile, List.append_nil] at htaken
    omega
  · -- every card of the tutorial would be held
    have hsubset : tutorialDeck ⊆ s.table.heldCards := by
      intro card hcard
      have hfilter := List.filter_eq_nil_iff.mp hrefill.symm card hcard
      simpa using hfilter
    have hlength := (List.subperm_of_subset tutorialDeck_nodup hsubset).length_le
    omega

theorem Deals.length_eq {side : Side} {count : Nat} {cards : List CardId}
    (h : s.Deals side count cards s') (hn : n ≤ tutorialDeck.length)
    (hcards : s.table.player.tutorialFinished = true → n ≤ s.table.cardsInPlay.length)
    (hheld : s.table.heldCards.length + count ≤ n) : cards.length = count := by
  cases h with
  | intro hhand hdraws hcount hshort =>
    rcases Nat.lt_or_ge cards.length count with hlt | hge
    · exact absurd (hshort hlt) (hdraws.not_dry hn hcards (by omega))
    · exact Nat.le_antisymm hcount hge

theorem Deals.complete {side : Side} {count : Nat} {cards : List CardId}
    (h : s.Deals side count cards s') (hround : s.roundInProgress = true)
    (hcards : s.table.CardsHold (3 ≤ ·.length)) {hand : Hand}
    (hhand : s.table.hand? = some hand) (hopen : hand.isInProgress = true)
    (hcount : hand.cards.length + count ≤ 3) :
    cards.length = count ∧ s'.roundInProgress = true ∧ s'.table.CardsHold (3 ≤ ·.length) ∧
      s'.table.hand? = some (hand.receive side cards) := by
  have hopen' := s.handInProgress_iff.mpr ⟨hand, hhand, hopen⟩
  refine ⟨h.length_eq (by decide) (hcards · hround) ?_, h.roundInProgress hround,
    h.cardsHold enough_of_perm hround hopen' hcards, ?_⟩
  · rwa [Table.heldCards_eq hhand hopen]
  · cases h with
    | @intro t before hbefore hdraws hle hshort =>
      cases hhand.symm.trans hbefore
      rfl

end Session

/-- One card of the daimon, and two or more of the player that neither bust nor are a natural. -/
structure Hand.Playable (hand : Hand) : Prop where
  daimon : hand.daimonCards.length = 1
  player : 2 ≤ hand.playerCards.length
  total : ∃ ranks, ranksOf hand.playerCards = .ok ranks ∧ Score.total ranks ≤ 21 ∧
    (hand.playerCards.length = 2 → Score.total ranks ≠ 21)

theorem Hand.Playable.of_two {hand : Hand} {ranks : List Rank}
    (hdaimon : hand.daimonCards.length = 1) (hplayer : hand.playerCards.length = 2)
    (hranks : ranksOf hand.playerCards = .ok ranks) (hnatural : Score.isNatural ranks = false) :
    hand.Playable := by
  have hlength : ranks.length = 2 := (ranksOf_length hranks).trans hplayer
  refine ⟨hdaimon, Nat.le_of_eq hplayer.symm, ranks, hranks, ?_, fun _ htotal => ?_⟩
  · exact Score.total_le_of_two hlength
  · simp [Score.isNatural, hlength, Score.limit, htotal] at hnatural

theorem Hand.Playable.receive {hand : Hand} {card : CardId} {ranks : List Rank}
    (h : hand.Playable) (hranks : ranksOf (hand.receive .player [card]).playerCards = .ok ranks)
    (hbust : Score.isBust ranks = false) : (hand.receive .player [card]).Playable := by
  have hplayer := h.player
  have hlength : (hand.receive .player [card]).playerCards.length =
      hand.playerCards.length + 1 := by simp [Hand.receive]
  refine ⟨h.daimon, by omega, ranks, hranks, ?_, fun htwo => absurd htwo (by omega)⟩
  exact Nat.le_of_not_lt (of_decide_eq_false hbust)

/-- An open hand can be played, in a round in progress. -/
def Table.Playable (t : Table) : Prop :=
  ∀ hand, t.hand? = some hand → hand.isInProgress = true →
    t.round?.any Round.isInProgress = true ∧ hand.Playable

namespace Session

variable {s s' : Session}

theorem Bleeds.exists_hand (h : s.Bleeds s') {hand : Hand} (hhand : s'.table.hand? = some hand) :
    ∃ pot, s.table.hand? = some { hand with pot } := by
  have hsame := h.hand?
  rw [hhand] at hsame
  obtain ⟨before, hbefore, hcards⟩ := Option.map_eq_some_iff.mp hsame.symm
  refine ⟨before.pot, hbefore.trans (congrArg some ?_)⟩
  cases before
  cases hand
  simp_all

theorem Finishes.exists_pot {t : Session} {status : HandStatus} {hand : Hand}
    (h : t.Finishes status s') (hbleeds : s.Bleeds t) (hhand : s.table.hand? = some hand) :
    ∃ pot, s'.table.hand? = some { hand with pot, status } := by
  obtain ⟨u, hend, hclose⟩ := h
  cases hclose with
  | @intro closed _ _ hclosed _ _ =>
    have hbleeds' : s.Bleeds u := hbleeds.trans hend.flows.bleeds
    obtain ⟨pot, hbefore⟩ := hbleeds'.exists_hand hclosed
    cases hhand.symm.trans hbefore
    exact ⟨closed.pot, rfl⟩

theorem Bleeds.playable (h : s.Bleeds s') (hround : s'.roundInProgress = true)
    {hand : Hand} (hhand : s.table.hand? = some hand) (hplayable : hand.Playable) :
    s'.table.Playable := by
  intro hand' hhand' hopen
  obtain ⟨pot, hbefore⟩ := h.exists_hand hhand'
  cases hhand.symm.trans hbefore
  obtain ⟨hdaimon, hplayer, htotal⟩ := hplayable
  exact ⟨hround, hdaimon, hplayer, htotal⟩

theorem OpeningDeal.playable (h : s.OpeningDeal s') (hround : s.roundInProgress = true)
    (hcards : s.table.CardsHold (3 ≤ ·.length)) {hand : Hand}
    (hhand : s.table.hand? = some hand) (hopen : hand.isInProgress = true)
    (hplayer : hand.playerCards = []) (hdaimon : hand.daimonCards = []) :
    s'.table.Playable := by
  cases h with
  | @intro t u _ cards more dealt ranks hheld hfirst hsecond hdealt hfire hgoing hranks hnatural =>
    have hnone : hand.cards.length = 0 := by simp [Hand.cards, hplayer, hdaimon]
    obtain ⟨htwo, hround', hcards', hhand'⟩ :=
      hfirst.complete hround hcards hhand hopen (by omega)
    have hopen' := (hand.receive_isInProgress .player cards).trans hopen
    have hheld : (hand.receive .player cards).cards.length = 2 := by
      simp [Hand.receive, Hand.cards, hplayer, hdaimon, htwo]
    obtain ⟨hone, hround'', -, hhand''⟩ :=
      hsecond.complete hround' hcards' hhand' hopen' (by omega)
    cases hhand''.symm.trans hdealt
    refine hfire.bleeds.playable (hfire.bleeds.roundInProgress hround'' hgoing) hdealt ?_
    refine .of_two ?_ ?_ hranks hnatural
    · simp [Hand.receive, hdaimon, hone]
    · simp [Hand.receive, hplayer, htwo]

theorem Deals.playable {t : Session} {card : CardId} {cards : List CardId} {hand : Hand}
    {ranks : List Rank} (h : s.Deals .player 1 (card :: cards) t)
    (hround : s.roundInProgress = true) (hopen : s.handInProgress = true)
    (hhand : t.table.hand? = some hand) (hranks : ranksOf hand.playerCards = .ok ranks)
    (hbust : Score.isBust ranks = false)
    (hfire : (t.emit (.cardDrawn card (Score.total ranks))).Bleeds s')
    (hgoing : s'.roundTerminal = false) (hs : s.table.Playable) : s'.table.Playable := by
  have hround' := hfire.roundInProgress (h.roundInProgress hround) hgoing
  refine hfire.playable hround' hhand ?_
  cases h with
  | @intro u before hbefore hdraws hcount hshort =>
    cases List.length_eq_zero_iff.mp (Nat.le_zero.mp (Nat.le_of_succ_le_succ hcount))
    cases hhand
    obtain ⟨_, hbefore', hopen⟩ := s.handInProgress_iff.mp hopen
    cases hbefore.symm.trans hbefore'
    exact (hs before hbefore hopen).2.receive hranks hbust

end Session

theorem Table.playable_of_idle {s : Session} (h : s.handInProgress = false) :
    s.table.Playable := by
  intro hand hhand hopen
  rw [s.handInProgress_iff.mpr ⟨hand, hhand, hopen⟩] at h
  cases h

theorem Session.Closes.handInProgress {s s' : Session} {status : HandStatus}
    (h : s.Closes status s') (hstatus : status ≠ .inProgress) : s'.handInProgress = false := by
  cases h with
  | intro hhand hplayer hdaimon =>
    simpa [Session.handInProgress, Session.closeHand, Hand.isInProgress] using hstatus

variable {house : House} {s s' t : Session} {request : Request}

theorem Enters.hand_empty (h : Enters house s .startHand t) {hand : Hand}
    (hhand : t.table.hand? = some hand) : hand.playerCards = [] ∧ hand.daimonCards = [] := by
  cases h with
  | startHand hround hopen hidle hstake =>
    cases hhand
    exact ⟨rfl, rfl⟩
  | move hmove hround hhand => simp at hmove

/-- A request leaves a hand open only if it can still be played. -/
theorem Transition.playable (h : Transition house s request s')
    (hcards : s.table.CardsHold (3 ≤ ·.length)) (hs : s.table.Playable) :
    s'.table.Playable := by
  cases h with
  | startGame hidle => exact nofun
  | startRound hidle hgame hopen hdaimon ht hround hshoe hfire =>
    apply Table.playable_of_idle
    rw [Session.handInProgress_of_steady hfire.bleeds.steady, ht]
    rfl
  | closed henter hbegin h =>
    obtain ⟨t, status, hplay, hstatus, hclose⟩ := h.closes
    exact Table.playable_of_idle (hclose.handInProgress hstatus)
  | opened henter hbegin hgoing hdeal =>
    have hstakes := hbegin.bleeds
    have hcards' := hstakes.cardsHold (henter.cardsHold hcards)
    obtain ⟨hround, hopen⟩ := henter.open_of_begins hbegin hgoing
    obtain ⟨hand, hhand, hopen⟩ := (Session.handInProgress_iff _).mp hopen
    obtain ⟨pot, hbefore⟩ := hstakes.exists_hand hhand
    obtain ⟨hplayer, hdaimon⟩ := henter.hand_empty hbefore
    exact hdeal.playable hround hcards' hhand hopen hplayer hdaimon
  | drawn henter hdeal hhand hranks hbust hfire hgoing =>
    exact hdeal.playable henter.roundInProgress henter.handInProgress hhand hranks hbust
      hfire.bleeds hgoing hs
  | equipped hplayer hfire hidle hgoing =>
    intro hand hhand hopen
    have hfire := hfire.bleeds
    obtain ⟨pot, hbefore⟩ := hfire.exists_hand hhand
    obtain ⟨hround, hplayable⟩ := hs _ hbefore hopen
    -- had the token ended the round, the hand would have been closed
    have hgoing := hgoing (Session.handInProgress_iff _ |>.mpr ⟨hand, hhand, hopen⟩) hround
    exact hfire.playable (hfire.roundInProgress hround hgoing) hbefore hplayable hand hhand hopen
  | deckAssigned hranks hplayer => exact hs
  | @rewardClaimed round _ hround hwon hclaim h =>
    obtain ⟨tokens, progression, htable⟩ := Session.claimed_table h
    rw [htable]
    intro hand hhand hopen
    -- a round that is won has no open hand
    obtain ⟨hround', -⟩ := hs hand hhand hopen
    simp [hround, Round.isInProgress, hwon] at hround'

end BloodStakes
