import BloodStakes.Proofs.Sampling
import BloodStakes.Proofs.Success
import BloodStakes.Proofs.Working

/-!
Dealing. A deal takes cards off the front of the shoe and refills the shoe when it runs
empty, even between two cards of one deal; in the meantime the cards are on no pile.
-/
namespace BloodStakes

/-- The cards of the shoe and the discard pile. -/
def Round.pile (round : Round) : List CardId := round.shoe ++ round.discard

namespace Table

def shoe (t : Table) : List CardId := (t.round?.map Round.shoe).getD []

def pile (t : Table) : List CardId := (t.round?.map Round.pile).getD []

theorem heldCards_eq {t : Table} {hand : Hand} (hhand : t.hand? = some hand)
    (hopen : hand.isInProgress = true) : t.heldCards = hand.cards := by
  simp [heldCards, hhand, hopen]

/-- All cards of the round, wherever they are. -/
def cardsInPlay (t : Table) : List CardId := t.pile ++ t.heldCards

end Table

/-- The hand with more cards on one side. -/
def Hand.receive (hand : Hand) (side : Side) (cards : List CardId) : Hand :=
  match side with
  | .player => { hand with playerCards := hand.playerCards ++ cards }
  | .daimon => { hand with daimonCards := hand.daimonCards ++ cards }

theorem Hand.receive_isInProgress (hand : Hand) (side : Side) (cards : List CardId) :
    (hand.receive side cards).isInProgress = hand.isInProgress := by
  cases side <;> rfl

theorem Hand.receive_cards_perm (hand : Hand) (side : Side) (cards : List CardId) :
    (hand.receive side cards).cards.Perm (cards ++ hand.cards) := by
  cases side with
  | player =>
    simp only [receive, Hand.cards, List.append_assoc]
    exact List.perm_append_comm_assoc _ _ _
  | daimon =>
    have hcomm : (hand.cards ++ cards).Perm (cards ++ hand.cards) := List.perm_append_comm
    simpa [receive, Hand.cards] using hcomm

namespace Session

/-- `shoe` is what may go back into the empty shoe of `round`. -/
def Refills (s : Session) (round : Round) (shoe : List CardId) : Prop :=
  if s.table.player.tutorialFinished then shoe.Perm round.discard
  else shoe = tutorialDeck.filter fun card => !s.table.heldCards.contains card

/-- The shoe is empty, and nothing may go back into it. -/
def Dry (s : Session) : Prop :=
  ∃ round, s.table.round? = some round ∧ round.shoe = [] ∧ s.Refills round []

/-- `cards` leave the shoe, which may be refilled when it is empty and a card is wanted. -/
inductive Draws : Session → List CardId → Session → Prop
  | done (s : Session) : Draws s [] s
  | refill {s s' : Session} {round : Round} {card : CardId} {shoe cards : List CardId} (rng : Rng)
      (hround : s.table.round? = some round) (hempty : round.shoe = [])
      (hshoe : s.Refills round shoe)
      (rest : Draws ({ s with rng }.fillShoe round shoe) (card :: cards) s') :
      Draws s (card :: cards) s'
  | take {s s' : Session} {round : Round} {card : CardId} {shoe cards : List CardId}
      (hround : s.table.round? = some round) (hshoe : round.shoe = card :: shoe)
      (rest : Draws (s.putRound { round with shoe }) cards s') : Draws s (card :: cards) s'

/-- Up to `count` cards are dealt to a side of the hand; fewer only if no more are left. -/
inductive Deals (s : Session) (side : Side) (count : Nat) (cards : List CardId) : Session → Prop
  | intro {t : Session} {hand : Hand} (hhand : s.table.hand? = some hand)
      (hdraws : s.Draws cards t) (hcount : cards.length ≤ count)
      (hshort : cards.length < count → t.Dry) :
      Deals s side count cards (t.putHand (hand.receive side cards))

@[simp] theorem fillShoe_table (s : Session) (round : Round) (shoe : List CardId) :
    (s.fillShoe round shoe).table =
      { s.table with round? := some { round with shoe, discard := [] } } := rfl

theorem Draws.trans {s t u : Session} {cards more : List CardId} (h : s.Draws cards t)
    (h' : t.Draws more u) : s.Draws (cards ++ more) u := by
  induction h with
  | done s => exact h'
  | refill rng hround hempty hshoe _ ih => exact .refill rng hround hempty hshoe (ih h')
  | take hround hshoe _ ih => exact .take hround hshoe (ih h')

theorem Draws.exists_table {s s' : Session} {cards : List CardId} (h : s.Draws cards s')
    {round : Round} (hround : s.table.round? = some round) :
    ∃ shoe discard,
      s'.table = { s.table with round? := some { round with shoe, discard } } := by
  induction h generalizing round with
  | done s =>
    refine ⟨round.shoe, round.discard, ?_⟩
    rw [← hround]
  | refill rng hround' hempty hshoe _ ih =>
    cases hround.symm.trans hround'
    obtain ⟨shoe, discard, h⟩ := ih rfl
    exact ⟨shoe, discard, h⟩
  | take hround' hshoe _ ih =>
    cases hround.symm.trans hround'
    obtain ⟨shoe, discard, h⟩ := ih rfl
    exact ⟨shoe, discard, h⟩

theorem Draws.hand? {s s' : Session} {cards : List CardId} (h : s.Draws cards s') :
    s'.table.hand? = s.table.hand? := by
  induction h with
  | done s => rfl
  | refill rng hround hempty hshoe _ ih => exact ih
  | take hround hshoe _ ih => exact ih

theorem Draws.player {s s' : Session} {cards : List CardId} (h : s.Draws cards s') :
    s'.table.player = s.table.player := by
  induction h with
  | done s => rfl
  | refill rng hround hempty hshoe _ ih => exact ih
  | take hround hshoe _ ih => exact ih

theorem Draws.heldCards {s s' : Session} {cards : List CardId} (h : s.Draws cards s') :
    s'.table.heldCards = s.table.heldCards := by
  unfold Table.heldCards
  rw [h.hand?]

theorem Draws.filterMap {s s' : Session} {cards : List CardId} {α : Type} {seen : Event → Option α}
    (h : s.Draws cards s') (hshuffled : ∀ cards, seen (.deckShuffled cards) = none) :
    s'.events.filterMap seen = s.events.filterMap seen := by
  induction h with
  | done s => rfl
  | refill rng hround hempty hshoe _ ih =>
    rw [ih]
    simp [fillShoe, emit, putRound, hshuffled]
  | take hround hshoe _ ih => exact ih

/-- What has been drawn and what is left are what was there, once the tutorial is finished. -/
theorem Draws.pile_perm {s s' : Session} {cards : List CardId} (h : s.Draws cards s')
    (hveteran : s.table.player.tutorialFinished = true) :
    (cards ++ s'.table.pile).Perm s.table.pile := by
  induction h with
  | done s => exact .refl _
  | @refill s s' round card shoe cards rng hround hempty hshoe _ ih =>
    refine (ih hveteran).trans ?_
    unfold Refills at hshoe
    rw [if_pos hveteran] at hshoe
    simpa [Table.pile, Round.pile, hround, hempty] using hshoe
  | @take s s' round card shoe cards hround hshoe _ ih =>
    have hrest := (ih hveteran).cons card
    simpa [Table.pile, Round.pile, hround, hshoe] using hrest

theorem tutorialDeck_nodup : tutorialDeck.Nodup := by decide

theorem Draws.shoe_nodup {s s' : Session} {cards : List CardId} (h : s.Draws cards s')
    (hshoe : s.table.shoe.Nodup)
    (hpile : s.table.player.tutorialFinished = true → s.table.pile.Nodup) :
    s'.table.shoe.Nodup := by
  induction h with
  | done s => exact hshoe
  | @refill s s' round card shoe cards rng hround hempty hrefill _ ih =>
    unfold Refills at hrefill
    have hpile' : s.table.pile = round.discard := by
      simp [Table.pile, Round.pile, hround, hempty]
    have hnodup : shoe.Nodup := by
      split at hrefill
      · next hveteran => exact (hrefill.nodup_iff).mpr (hpile' ▸ hpile hveteran)
      · rw [hrefill]
        exact tutorialDeck_nodup.filter _
    apply ih
    · simpa [Table.shoe] using hnodup
    · intro _
      simpa [Table.pile, Round.pile] using hnodup
  | @take s s' round card shoe cards hround hcard _ ih =>
    apply ih
    · have hcards : (card :: shoe).Nodup := by simpa [Table.shoe, hround, hcard] using hshoe
      exact (List.nodup_cons.mp hcards).2
    · intro hveteran
      have hcards : (card :: (shoe ++ round.discard)).Nodup := by
        simpa [Table.pile, Round.pile, hround, hcard] using hpile hveteran
      exact (List.nodup_cons.mp hcards).2

theorem Deals.length_le {side : Side} {count : Nat} {s s' : Session} {cards : List CardId}
    (h : s.Deals side count cards s') : cards.length ≤ count := by
  cases h with
  | intro hhand hdraws hcount hshort => exact hcount

theorem Deals.draws {side : Side} {count : Nat} {s s' : Session} {cards : List CardId}
    (h : s.Deals side count cards s') (hopen : s.handInProgress = true) :
    ∃ t, s.Draws cards t ∧ s'.table.pile = t.table.pile ∧ s'.table.shoe = t.table.shoe ∧
      s'.table.player = s.table.player ∧ s'.table.heldCards.Perm (cards ++ s.table.heldCards) := by
  cases h with
  | @intro t hand hhand hdraws _ _ =>
    obtain ⟨_, hhand', hopen⟩ := s.handInProgress_iff.mp hopen
    cases hhand.symm.trans hhand'
    have hheld' : (t.putHand (hand.receive side cards)).table.heldCards =
        (hand.receive side cards).cards :=
      Table.heldCards_eq rfl ((hand.receive_isInProgress side cards).trans hopen)
    refine ⟨t, hdraws, rfl, rfl, hdraws.player, ?_⟩
    rw [Table.heldCards_eq hhand hopen, hheld']
    exact hand.receive_cards_perm side cards

theorem Deals.cardsInPlay_perm_of_draws {side : Side} {count : Nat} {s s' : Session}
    {cards deck : List CardId} (h : s.Deals side count cards s') (hopen : s.handInProgress = true)
    (hdeck : ∀ t, s.Draws cards t → (cards ++ t.table.pile ++ s.table.heldCards).Perm deck) :
    s'.table.cardsInPlay.Perm deck := by
  obtain ⟨t, hdraws, hpile, -, -, hheld⟩ := h.draws hopen
  refine .trans ?_ (hdeck t hdraws)
  unfold Table.cardsInPlay
  calc
    s'.table.pile ++ s'.table.heldCards
      |>.Perm (t.table.pile ++ (cards ++ s.table.heldCards)) :=
        hpile ▸ hheld.append_left _
    _ |>.Perm (cards ++ t.table.pile ++ s.table.heldCards) := by
        rw [List.append_assoc]
        exact List.perm_append_comm_assoc _ _ _

theorem Deals.cardsInPlay_perm {side : Side} {count : Nat} {s s' : Session}
    {cards : List CardId} (h : s.Deals side count cards s') (hopen : s.handInProgress = true)
    (hveteran : s.table.player.tutorialFinished = true) :
    s'.table.cardsInPlay.Perm s.table.cardsInPlay :=
  h.cardsInPlay_perm_of_draws hopen fun _ hdraws => (hdraws.pile_perm hveteran).append_right _

end Session

namespace Play

variable {s s' : Session} {rules : Rules}

theorem weightedShuffle_perm {cards order : List CardId} {number : Nat}
    (h : (weightedShuffle rules cards number).run s = .ok order s') :
    order.Perm cards ∧ ∃ rng, s' = { s with rng } ∧ (order = [] → rng = s.rng) := by
  simp only [weightedShuffle, bind_eq_ok, ranks_eq_ok, get_eq_ok, ofExcept_eq_ok, modify_eq_ok,
    pure_eq_ok, Prod.exists, and_assoc, exists_and_left, exists_eq_left, exists_const] at h
  obtain ⟨faces, -, _, rng, hsample, rfl, rfl⟩ := h
  have hperm := sample_all_perm (Nat.le_refl _) hsample
  refine ⟨hperm, rng, rfl, ?_⟩
  rintro rfl
  -- nothing is drawn from an empty urn
  cases hperm.nil_eq
  unfold sample at hsample
  split at hsample
  · simp only [List.length_nil, Urn.drawMany, Except.ok.injEq, Prod.mk.injEq, true_and] at hsample
    exact hsample.symm
  · cases hsample

theorem refill_refills {round : Round} {shoe : List CardId}
    (h : (refill rules round).run s = .ok shoe s') :
    s.Refills round shoe ∧ ∃ rng, s' = { s with rng } ∧ (shoe = [] → rng = s.rng) := by
  simp only [refill, bind_eq_ok, get_eq_ok, and_assoc, exists_and_left, exists_eq_left] at h
  unfold Session.Refills
  split at h
  · next hveteran =>
    rw [if_pos hveteran]
    exact weightedShuffle_perm h
  · next htutorial =>
    rw [if_neg htutorial]
    obtain ⟨rfl, rfl⟩ := pure_eq_ok.mp h
    exact ⟨rfl, s.rng, rfl, fun _ => rfl⟩

theorem reshuffleIfEmpty_cases {done : Bool} {round : Round}
    (h : (reshuffleIfEmpty rules).run s = .ok done s') (hround : s.table.round? = some round) :
    s' = s ∧ (round.shoe = [] → s.Refills round []) ∨
      ∃ shoe rng, round.shoe = [] ∧ s.Refills round shoe ∧ shoe ≠ [] ∧
        s' = { s with rng }.fillShoe round shoe := by
  simp only [reshuffleIfEmpty, bind_eq_ok, get_eq_ok, and_assoc, exists_and_left,
    exists_eq_left, hround] at h
  split at h
  · next hempty =>
    have hempty := List.isEmpty_iff.mp hempty
    obtain ⟨shoe, t, hrefill, h⟩ := bind_eq_ok.mp h
    obtain ⟨hrefills, rng, rfl, hrng⟩ := refill_refills hrefill
    split at h
    · next hshoe =>
      obtain ⟨-, rfl⟩ := pure_eq_ok.mp h
      have hshoe := List.isEmpty_iff.mp hshoe
      cases hrng hshoe
      exact .inl ⟨rfl, fun _ => hshoe ▸ hrefills⟩
    · next hshoe =>
      simp only [fillShoe, bind_eq_ok, round_eq_ok, modify_eq_ok, pure_eq_ok, and_assoc,
        exists_and_left, exists_eq_left, exists_const] at h
      obtain ⟨_, ⟨_, hround', rfl⟩, -, rfl⟩ := h
      cases hround.symm.trans hround'
      exact .inr ⟨shoe, rng, hempty, hrefills, fun h => hshoe (List.isEmpty_iff.mpr h), rfl⟩
  · next hshoe =>
    obtain ⟨-, rfl⟩ := pure_eq_ok.mp h
    exact .inl ⟨rfl, fun hempty => absurd (List.isEmpty_iff.mpr hempty) hshoe⟩

theorem nextCard_cases {card? : Option CardId} (h : (nextCard rules).run s = .ok card? s') :
    (∃ card, card? = some card ∧ s.Draws [card] s') ∨ (card? = none ∧ s' = s ∧ s.Dry) := by
  obtain ⟨done, t, hreshuffle, htake⟩ := bind_eq_ok.mp h
  simp only [bind_eq_ok, round_eq_ok, and_assoc, exists_and_left, exists_eq_left] at htake
  obtain ⟨current, hcurrent, htake⟩ := htake
  cases hround : s.table.round? with
  | none =>
    simp only [reshuffleIfEmpty, bind_eq_ok, get_eq_ok, and_assoc, exists_and_left,
      exists_eq_left, hround, pure_eq_ok] at hreshuffle
    obtain ⟨-, rfl⟩ := hreshuffle
    cases hround.symm.trans hcurrent
  | some round =>
    obtain ⟨rfl, hdry⟩ | ⟨shoe, rng, hempty, hrefills, hne, rfl⟩ :=
      reshuffleIfEmpty_cases hreshuffle hround
    · cases hround.symm.trans hcurrent
      split at htake
      · next hshoe =>
        obtain ⟨rfl, rfl⟩ := pure_eq_ok.mp htake
        exact .inr ⟨rfl, rfl, current, hround, hshoe, hdry hshoe⟩
      · next card shoe hshoe =>
        simp only [bind_eq_ok, modify_eq_ok, pure_eq_ok, exists_const] at htake
        obtain ⟨_, rfl, rfl, rfl⟩ := htake
        exact .inl ⟨card, rfl, .take hround hshoe (.done _)⟩
    · have hcurrent := Option.some.inj hcurrent
      split at htake
      · next hshoe =>
        rw [← hcurrent] at hshoe
        exact absurd hshoe hne
      · next card shoe hshoe =>
        simp only [bind_eq_ok, modify_eq_ok, pure_eq_ok, exists_const] at htake
        obtain ⟨_, rfl, rfl, rfl⟩ := htake
        exact .inl ⟨card, rfl, .refill rng hround hempty hrefills
          (.take (congrArg some hcurrent) hshoe (.done _))⟩

theorem takeCards_draws {count : Nat} {cards : List CardId}
    (h : (takeCards rules count).run s = .ok cards s') :
    s.Draws cards s' ∧ cards.length ≤ count ∧ (cards.length < count → s'.Dry) := by
  induction count generalizing s cards with
  | zero =>
    obtain ⟨rfl, rfl⟩ := pure_eq_ok.mp h
    exact ⟨.done _, Nat.le_refl 0, fun h => absurd h (Nat.lt_irrefl 0)⟩
  | succ count ih =>
    obtain ⟨card?, t, hnext, hrest⟩ := bind_eq_ok.mp h
    obtain ⟨card, rfl, hdraws⟩ | ⟨rfl, rfl, hdry⟩ := nextCard_cases hnext
    · obtain ⟨more, u, hmore, hdone⟩ := bind_eq_ok.mp hrest
      obtain ⟨rfl, rfl⟩ := pure_eq_ok.mp hdone
      obtain ⟨hdraws', hlength, hshort⟩ := ih hmore
      refine ⟨hdraws.trans hdraws', Nat.succ_le_succ hlength, ?_⟩
      exact fun h => hshort (Nat.lt_of_succ_lt_succ h)
    · obtain ⟨rfl, rfl⟩ := pure_eq_ok.mp hrest
      exact ⟨.done _, Nat.zero_le _, fun _ => hdry⟩

theorem deal_deals {side : Side} {count : Nat} {cards : List CardId}
    (h : (deal rules side count).run s = .ok cards s') : s.Deals side count cards s' := by
  simp only [deal, bind_eq_ok, hand_eq_ok, and_assoc, exists_and_left, exists_eq_left] at h
  obtain ⟨hand, hhand, taken, t, htake, current, hcurrent, h⟩ := h
  obtain ⟨hdraws, hlength, hshort⟩ := takeCards_draws htake
  cases hhand.symm.trans (hdraws.hand?.symm.trans hcurrent)
  cases side with
  | player =>
    simp only [bind_eq_ok, modify_eq_ok, pure_eq_ok, exists_const] at h
    obtain ⟨_, rfl, rfl, rfl⟩ := h
    exact .intro hhand hdraws hlength hshort
  | daimon =>
    simp only [bind_eq_ok, modify_eq_ok, pure_eq_ok, exists_const] at h
    obtain ⟨_, rfl, rfl, rfl⟩ := h
    exact .intro hhand hdraws hlength hshort

end Play

end BloodStakes
