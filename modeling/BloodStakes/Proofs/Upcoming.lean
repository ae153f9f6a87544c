import BloodStakes.Proofs.Progress
import BloodStakes.Proofs.Tutorial

/-!
The cards to come. While a hand is open it is settled which cards the daimon would draw, one
after the other: those of the shoe, and then those that go back into it. The daimon takes the
fewest of them that bring it to its total, or all of them if no number does.
-/
namespace BloodStakes

namespace Session

variable {s s' t : Session} {rules : Rules} {round : Round} {hand : Hand}

/-- The cards in the order in which they would be shuffled now. -/
def shuffled (s : Session) (rules : Rules) (cards : List CardId) (number : Nat) : List CardId :=
  match (Play.weightedShuffle rules cards number).run s with
  | .ok order _ => order
  | .error .. => []

/-- What goes back into the shoe once its last card is in the hand: the discard pile, or the
tutorial cards that are in neither. -/
def refilled (s : Session) (rules : Rules) : List CardId :=
  match s.table.round? with
  | none => []
  | some round =>
    if s.table.player.tutorialFinished then s.shuffled rules round.discard round.number
    else tutorialDeck.filter fun card => !(s.table.heldCards ++ round.shoe).contains card

/-- The cards that can be drawn for the open hand, the next one first. -/
def upcoming (s : Session) (rules : Rules) : List CardId :=
  s.table.shoe ++ s.refilled rules

theorem shuffled_congr (h : t.rng = s.rng) (cards : List CardId) (number : Nat) :
    t.shuffled rules cards number = s.shuffled rules cards number := by
  simp only [shuffled, Play.weightedShuffle, Play.run_bind, Play.run_ranks, Play.run_get]
  cases ranksOf cards with
  | error e => rfl
  | ok faces =>
    dsimp only
    rw [h]
    cases sample cards _ cards.length s.rng <;> simp [Play.ofExcept]

end Session

namespace Play

open Session

variable {s s' : Session} {rules : Rules} {round : Round} {hand : Hand}

theorem refill_eq_refilled {shoe : List CardId} (hround : s.table.round? = some round)
    (hempty : round.shoe = []) (h : (refill rules round).run s = .ok shoe s') :
    shoe = s.refilled rules := by
  simp only [refill, bind_eq_ok, get_eq_ok, and_assoc, exists_and_left, exists_eq_left] at h
  simp only [refilled, hround, hempty, List.append_nil]
  split at h
  · next hveteran =>
    rw [if_pos hveteran, shuffled, h]
  · next htutorial =>
    rw [if_neg htutorial]
    exact (pure_eq_ok.mp h).1.symm

private theorem reshuffleIfEmpty_eq_ok {done : Bool} (hround : s.table.round? = some round)
    (h : (reshuffleIfEmpty rules).run s = .ok done s') :
    s' = s ∧ (round.shoe = [] → s.refilled rules = []) ∨
      round.shoe = [] ∧ s.refilled rules ≠ [] ∧
        ∃ rng, s' = { s with rng }.fillShoe round (s.refilled rules) := by
  simp only [reshuffleIfEmpty, bind_eq_ok, get_eq_ok, and_assoc, exists_and_left, exists_eq_left,
    hround] at h
  split at h
  · next hempty =>
    have hempty := List.isEmpty_iff.mp hempty
    obtain ⟨shoe, t, hrefill, h⟩ := bind_eq_ok.mp h
    obtain ⟨-, rng, rfl, hrng⟩ := refill_refills hrefill
    cases refill_eq_refilled hround hempty hrefill
    split at h
    · next hnone =>
      have hnone := List.isEmpty_iff.mp hnone
      obtain ⟨-, rfl⟩ := pure_eq_ok.mp h
      cases hrng hnone
      exact .inl ⟨rfl, fun _ => hnone⟩
    · next hsome =>
      simp only [fillShoe, bind_eq_ok, round_eq_ok, modify_eq_ok, pure_eq_ok, and_assoc,
        exists_and_left, exists_eq_left, exists_const] at h
      obtain ⟨_, ⟨_, hround', rfl⟩, -, rfl⟩ := h
      cases hround.symm.trans hround'
      exact .inr ⟨hempty, fun h => hsome (List.isEmpty_iff.mpr h), rng, rfl⟩
  · next hshoe =>
    obtain ⟨-, rfl⟩ := pure_eq_ok.mp h
    exact .inl ⟨rfl, fun hempty => absurd (List.isEmpty_iff.mpr hempty) hshoe⟩

private theorem nextCard_eq_ok {card? : Option CardId} (hround : s.table.round? = some round)
    (h : (nextCard rules).run s = .ok card? s') :
    (round.shoe = [] ∧ s.refilled rules = [] ∧ card? = none ∧ s' = s) ∨
      ∃ card shoe, card? = some card ∧
        (round.shoe = card :: shoe ∧ s' = s.putRound { round with shoe } ∨
          round.shoe = [] ∧ s.refilled rules = card :: shoe ∧
            s'.table = { s.table with round? := some { round with shoe, discard := [] } }) := by
  obtain ⟨done, t, hreshuffle, htake⟩ := bind_eq_ok.mp h
  simp only [bind_eq_ok, round_eq_ok, and_assoc, exists_and_left, exists_eq_left] at htake
  obtain ⟨current, hcurrent, htake⟩ := htake
  obtain ⟨rfl, hdry⟩ | ⟨hempty, hsome, rng, rfl⟩ := reshuffleIfEmpty_eq_ok hround hreshuffle
  · cases hround.symm.trans hcurrent
    split at htake
    · next hempty =>
      obtain ⟨rfl, rfl⟩ := pure_eq_ok.mp htake
      exact .inl ⟨hempty, hdry hempty, rfl, rfl⟩
    · next card shoe hshoe =>
      simp only [bind_eq_ok, modify_eq_ok, pure_eq_ok, exists_const] at htake
      obtain ⟨_, rfl, rfl, rfl⟩ := htake
      exact .inr ⟨card, shoe, rfl, .inl ⟨hshoe, rfl⟩⟩
  · cases hcurrent
    split at htake
    · next hnone => exact absurd hnone hsome
    · next card shoe hshoe =>
      simp only [bind_eq_ok, modify_eq_ok, pure_eq_ok, exists_const] at htake
      obtain ⟨_, rfl, rfl, rfl⟩ := htake
      exact .inr ⟨card, shoe, rfl, .inr ⟨hempty, hshoe, rfl⟩⟩

end Play

namespace Session

variable {s s' t : Session} {rules : Rules} {round : Round} {card : CardId} {shoe : List CardId}

theorem upcoming_eq (hround : s.table.round? = some round) :
    s.upcoming rules = round.shoe ++ s.refilled rules := by
  simp [upcoming, Table.shoe, hround]

private theorem refilled_congr (htable : t.table = s.table) (hrng : t.rng = s.rng) :
    t.refilled rules = s.refilled rules := by
  simp only [refilled, htable, shuffled_congr hrng]

private theorem shuffled_nil (s : Session) (rules : Rules) (number : Nat) :
    s.shuffled rules [] number = [] := by
  unfold shuffled
  split
  · next order _ hrun =>
    have hperm := (Play.weightedShuffle_perm hrun).1
    exact hperm.eq_nil
  · rfl

/-- Once a card of the shoe has come to the hand, the same cards go back into the shoe. -/
theorem refilled_taken (hround : s.table.round? = some round) (hshoe : round.shoe = card :: shoe)
    (hheld : s'.table.heldCards.Perm (card :: s.table.heldCards)) (hrng : s'.rng = s.rng)
    (hplayer : s'.table.player = s.table.player)
    (hround' : s'.table.round? = some { round with shoe }) :
    s'.refilled rules = s.refilled rules := by
  simp only [refilled, hround, hround', hplayer, shuffled_congr hrng]
  split
  · rfl
  · refine List.filter_congr fun other _ => ?_
    rw [hshoe, Bool.eq_iff_iff]
    simp only [Bool.not_eq_true', List.contains_eq_mem, decide_eq_false_iff_not, List.mem_append,
      hheld.mem_iff, List.mem_cons]
    tauto

private theorem refilled_refilled (hround : s.table.round? = some round) (hempty : round.shoe = [])
    (hfilled : s.refilled rules = card :: shoe)
    (hheld : s'.table.heldCards.Perm (card :: s.table.heldCards))
    (hplayer : s'.table.player = s.table.player)
    (hround' : s'.table.round? = some { round with shoe, discard := [] }) :
    s'.refilled rules = [] := by
  simp only [refilled, hround, hempty, List.append_nil] at hfilled
  simp only [refilled, hround', hplayer, shuffled_nil]
  split
  · rfl
  · next htutorial =>
    rw [if_neg htutorial] at hfilled
    refine List.filter_eq_nil_iff.mpr fun other hother => ?_
    have hmem : other ∈ card :: shoe ↔ other ∉ s.table.heldCards := by
      rw [← hfilled, List.mem_filter]
      simp [hother]
    simp only [Bool.not_eq_true', List.contains_eq_mem, decide_eq_false_iff_not, List.mem_append,
      hheld.mem_iff, List.mem_cons, not_not] at hmem ⊢
    tauto

end Session

namespace Play

open Session

variable {s s' : Session} {rules : Rules} {round : Round} {hand : Hand} {cards : List CardId}

private theorem dry_of_upcoming (hs : Ready s) (h : s.upcoming rules = []) : s.Dry := by
  obtain ⟨round, hround⟩ := Option.isSome_iff_exists.mp hs.round
  rw [upcoming_eq hround, List.append_eq_nil_iff] at h
  obtain ⟨hempty, hrefilled⟩ := h
  refine ⟨round, hround, hempty, ?_⟩
  have hsucceeds : Succeeds (refill rules round) s := refill_succeeds hround hs.printed
  obtain ⟨shoe, t, hrefill⟩ := hsucceeds
  have hshoe := refill_eq_refilled hround hempty hrefill
  rw [hrefilled] at hshoe
  cases hshoe
  exact (refill_refills hrefill).1

theorem deal_upcoming (hround : s.table.round? = some round) (hhand : s.table.hand? = some hand)
    (hopen : hand.isInProgress = true) (h : (deal rules .daimon 1).run s = .ok cards s') :
    cards = (s.upcoming rules).take 1 ∧ s'.upcoming rules = (s.upcoming rules).drop 1 ∧
      s'.table.hand? = some (hand.receive .daimon cards) := by
  simp only [deal, takeCards, bind_eq_ok, hand_eq_ok, modify_eq_ok, pure_eq_ok, and_assoc,
    exists_and_left, exists_eq_left, exists_const] at h
  obtain ⟨_, hhand', taken, t, ⟨card?, u, hnext, htake⟩, current, hcurrent, rfl, rfl⟩ := h
  cases hhand.symm.trans hhand'
  rw [upcoming_eq hround]
  obtain ⟨hempty, hdry, rfl, hsame⟩ | ⟨card, shoe, rfl, hcases⟩ := nextCard_eq_ok hround hnext
  · obtain ⟨rfl, rfl⟩ := pure_eq_ok.mp htake
    rw [hsame] at hcurrent ⊢
    cases hhand.symm.trans hcurrent
    refine ⟨by simp [hempty, hdry], ?_, rfl⟩
    have htable : (s.putHand (hand.receive .daimon [])).table = s.table := by
      simp [Hand.receive, ← hhand]
    have hrefilled : (s.putHand (hand.receive .daimon [])).refilled rules = s.refilled rules :=
      refilled_congr htable rfl
    rw [hempty, hdry, List.nil_append, List.drop_nil, upcoming_eq (by exact hround), hempty]
    exact hrefilled.trans hdry
  · obtain ⟨rfl, rfl⟩ := pure_eq_ok.mp htake
    have hopen' := (hand.receive_isInProgress .daimon [card]).trans hopen
    have hheld : (hand.receive .daimon [card]).cards.Perm (card :: s.table.heldCards) := by
      rw [Table.heldCards_eq hhand hopen]
      exact hand.receive_cards_perm .daimon [card]
    obtain ⟨hshoe, rfl⟩ | ⟨hempty, hfilled, htable⟩ := hcases
    · cases hhand.symm.trans hcurrent
      have hdealt : ((s.putRound { round with shoe }).putHand
          (hand.receive .daimon [card])).refilled rules = s.refilled rules := by
        refine refilled_taken hround hshoe ?_ rfl rfl rfl
        rwa [Table.heldCards_eq rfl hopen']
      refine ⟨by simp [hshoe], ?_, rfl⟩
      rw [hshoe, upcoming_eq rfl]
      exact congrArg (shoe ++ ·) hdealt
    · have hplayer : u.table.player = s.table.player := by rw [htable]
      have hround' : u.table.round? = some { round with shoe, discard := [] } := by rw [htable]
      rw [htable] at hcurrent
      cases hhand.symm.trans hcurrent
      have hdealt : (u.putHand (hand.receive .daimon [card])).refilled rules = [] := by
        refine refilled_refilled hround hempty hfilled ?_ hplayer hround'
        rwa [Table.heldCards_eq rfl hopen']
      have hupcoming : (u.putHand (hand.receive .daimon [card])).upcoming rules = shoe := by
        rw [upcoming_eq (s := u.putHand _) hround', hdealt, List.append_nil]
      rw [hempty, hfilled]
      exact ⟨rfl, hupcoming, rfl⟩

end Play

namespace Rules

variable {rules : Rules} {held upcoming : List CardId} {card : CardId} {k : Nat}

/-- The daimon takes no card to these. -/
def Stands (rules : Rules) (cards : List CardId) : Prop :=
  ∃ ranks, ranksOf cards = .ok ranks ∧ rules.daimonStandTotal ≤ Score.total ranks

instance (rules : Rules) (cards : List CardId) : Decidable (rules.Stands cards) :=
  match h : ranksOf cards with
  | .ok ranks =>
    decidable_of_iff (rules.daimonStandTotal ≤ Score.total ranks) (by simp [Stands, h])
  | .error _ => .isFalse (by simp [Stands, h])

/-- How many of the cards to come are taken to those held: the fewest with which the daimon
stands, or all of them if it stands with no number. -/
inductive Takes (rules : Rules) (held upcoming : List CardId) (k : Nat) : Prop
  | stands (hstands : rules.Stands (held ++ upcoming.take k))
      (hleast : ∀ n < k, ¬ rules.Stands (held ++ upcoming.take n))
  | runsOut (hnever : ∀ n, ¬ rules.Stands (held ++ upcoming.take n)) (hall : k = upcoming.length)

private theorem takes_zero (h : rules.Stands held) : rules.Takes held upcoming 0 :=
  .stands (by simpa using h) (by simp)

private theorem takes_nil (h : ¬ rules.Stands held) : rules.Takes held [] 0 :=
  .runsOut (by simpa using h) rfl

theorem Takes.succ (hheld : ¬ rules.Stands held) (h : rules.Takes (held ++ [card]) upcoming k) :
    rules.Takes held (card :: upcoming) (k + 1) := by
  have hshift (n : Nat) : held ++ (card :: upcoming).take (n + 1) =
      held ++ [card] ++ upcoming.take n := by simp
  have hzero : ¬ rules.Stands (held ++ (card :: upcoming).take 0) := by simpa using hheld
  cases h with
  | stands hstands hleast =>
    refine .stands (by rwa [hshift]) fun n hn => ?_
    cases n with
    | zero => exact hzero
    | succ n =>
      rw [hshift]
      exact hleast n (Nat.lt_of_succ_lt_succ hn)
  | runsOut hnever hall =>
    refine .runsOut (fun n => ?_) (congrArg (· + 1) hall)
    cases n with
    | zero => exact hzero
    | succ n =>
      rw [hshift]
      exact hnever n

theorem Takes.le_length (h : rules.Takes held upcoming k) : k ≤ upcoming.length := by
  cases h with
  | stands hstands hleast =>
    by_contra hlong
    -- past the last card nothing is added
    have hlast : upcoming.take k = upcoming := List.take_of_length_le (by omega)
    refine hleast upcoming.length (by omega) ?_
    rwa [List.take_length, ← hlast]
  | runsOut hnever hall => exact Nat.le_of_eq hall

end Rules

namespace Play

open Session

variable {s s' : Session} {rules : Rules} {house : House} {hand : Hand}

private theorem drawToStand_run_stands (hhand : s.table.hand? = some hand)
    (h : rules.Stands hand.daimonCards) (fuel : Nat) :
    (drawToStand rules (fuel + 1)).run s = .ok () s := by
  obtain ⟨ranks, hranks, htotal⟩ := h
  simp only [drawToStand, run_bind, run_hand, hhand, run_ranks, hranks, if_pos htotal, run_pure]

private theorem drawToStand_run_draws {ranks : List Rank} {cards : List CardId}
    (hhand : s.table.hand? = some hand) (hranks : ranksOf hand.daimonCards = .ok ranks)
    (h : ¬ rules.Stands hand.daimonCards) (hdeal : (deal rules .daimon 1).run s = .ok cards s')
    (fuel : Nat) :
    (drawToStand rules (fuel + 1)).run s =
      match cards with
      | [] => .ok () s'
      | _ :: _ => (drawToStand rules fuel).run s' := by
  have htotal : ¬ rules.daimonStandTotal ≤ Score.total ranks := fun htotal =>
    h ⟨ranks, hranks, htotal⟩
  simp only [drawToStand, run_bind, run_hand, hhand, run_ranks, hranks, if_neg htotal, hdeal]
  cases cards <;> rfl

/-- Once it may draw more often than there are cards to come, the daimon takes exactly as many of
them as it needs. -/
theorem drawToStand_upcoming (hs : Ready s) (hhand : s.table.hand? = some hand) :
    ∃ k t, rules.Takes hand.daimonCards (s.upcoming rules) k ∧
      (∀ fuel, (s.upcoming rules).length < fuel → (drawToStand rules fuel).run s = .ok () t) ∧
      t.table.hand? = some (hand.receive .daimon ((s.upcoming rules).take k)) ∧
      t.upcoming rules = (s.upcoming rules).drop k ∧ Ready t := by
  induction hlength : (s.upcoming rules).length using Nat.strongRecOn
    generalizing s hand with
  | ind length ih =>
    by_cases hstands : rules.Stands hand.daimonCards
    · refine ⟨0, s, Rules.takes_zero hstands, fun fuel hfuel => ?_, ?_, rfl, hs⟩
      · obtain ⟨fuel, rfl⟩ := Nat.exists_eq_add_one_of_ne_zero (Nat.ne_zero_of_lt hfuel)
        exact drawToStand_run_stands hhand hstands fuel
      · simp [Hand.receive, hhand]
    · obtain ⟨_, hhand', hopen, -, hdaimon⟩ := hs.exists_hand
      cases hhand.symm.trans hhand'
      obtain ⟨round, hround⟩ := Option.isSome_iff_exists.mp hs.round
      obtain ⟨ranks, hranks⟩ := exists_ranksOf hdaimon
      obtain ⟨cards, t, hdeal⟩ := deal_succeeds hs .daimon 1
      obtain ⟨hcards, hrest, hdealt⟩ := deal_upcoming hround hhand hopen hdeal
      have ht := hs.deals (deal_deals hdeal)
      have hrun := drawToStand_run_draws hhand hranks hstands hdeal
      cases hupcoming : s.upcoming rules with
      | nil =>
        rw [hupcoming] at hcards hrest
        cases hcards
        refine ⟨0, t, Rules.takes_nil hstands, fun fuel hfuel => ?_, hdealt, hrest, ht⟩
        obtain ⟨fuel, rfl⟩ := Nat.exists_eq_add_one_of_ne_zero (Nat.ne_zero_of_lt hfuel)
        exact hrun fuel
      | cons card rest =>
        rw [hupcoming] at hcards hrest hlength
        cases hcards
        replace hrest : t.upcoming rules = rest := hrest
        obtain ⟨k, u, htakes, hruns, hlast, hdrop, hu⟩ :=
          ih rest.length (by simp [← hlength]) ht hdealt (congrArg List.length hrest)
        rw [hrest] at htakes hlast hdrop
        refine ⟨k + 1, u, htakes.succ hstands, fun fuel hfuel => ?_, ?_, hdrop, hu⟩
        · obtain ⟨fuel, rfl⟩ := Nat.exists_eq_add_one_of_ne_zero (Nat.ne_zero_of_lt hfuel)
          rw [← hlength] at hfuel
          exact (hrun fuel).trans (hruns fuel (Nat.lt_of_succ_lt_succ hfuel))
        · simpa [Hand.receive] using hlast

private theorem upcoming_lt_drawBound {fuel : Nat} {round : Round}
    (hround : s.table.round? = some round)
    (h : drawBound.run s = .ok fuel s') : (s.upcoming rules).length < fuel := by
  simp only [drawBound, bind_eq_ok, get_eq_ok, hround, pure_eq_ok, and_assoc, exists_and_left,
    exists_eq_left] at h
  obtain ⟨rfl, -⟩ := h
  have hrefilled : (s.refilled rules).length ≤ round.discard.length + tutorialDeck.length := by
    simp only [refilled, hround]
    split
    · refine Nat.le_add_right_of_le ?_
      unfold shuffled
      split
      · next hshuffle => exact Nat.le_of_eq (weightedShuffle_perm hshuffle).1.length_eq
      · exact Nat.zero_le _
    · exact Nat.le_add_left_of_le (List.length_filter_le _ _)
  rw [upcoming_eq hround, List.length_append]
  omega

/-- The daimon plays its hand to the end: it takes the next cards until it stands or none is left,
and then the hand is closed. The loop ends by itself, whatever bound is put on its draws. -/
theorem stand_exact (house : House) (hs : s.table.Printed) (hmove : .stand ∈ s.availableMoves) :
    ∃ hand k t status s' pot, s.table.hand? = some hand ∧
      house.rules.Takes hand.daimonCards (s.upcoming house.rules) k ∧
      k ≤ (s.upcoming house.rules).length ∧
      (∀ fuel, (s.upcoming house.rules).length < fuel →
        (drawToStand house.rules fuel).run s = .ok () t) ∧
      t.upcoming house.rules = (s.upcoming house.rules).drop k ∧
      (k = (s.upcoming house.rules).length → t.Dry) ∧
      (stand house).run s = .ok status s' ∧ (resolve house.catalog).run t = .ok status s' ∧
      s'.table.hand? = some
        { pot
          playerCards := hand.playerCards
          daimonCards := hand.daimonCards ++ (s.upcoming house.rules).take k
          status } ∧
      status ≠ .inProgress := by
  obtain ⟨hopen, hgoing⟩ := inProgress_of_available hmove
  have hready : Ready s := ⟨isSome_round_of_inProgress hgoing, hopen, hs⟩
  obtain ⟨hand, hhand, -⟩ := hready.exists_hand
  obtain ⟨round, hround⟩ := Option.isSome_iff_exists.mp hready.round
  obtain ⟨k, t, htakes, hruns, hdealt, hdrop, ht⟩ := drawToStand_upcoming hready hhand
  have hsucceeds : Succeeds (resolve house.catalog) t := resolve_succeeds ht
  obtain ⟨status, s', hresolve⟩ := hsucceeds
  obtain ⟨_, _, _, -, -, -, hfinish⟩ := resolve_finishes hresolve
  obtain ⟨pot, hclosed⟩ := hfinish.exists_pot (t.fireTable_flows house.catalog _).bleeds hdealt
  obtain ⟨_, hend, -⟩ := hfinish
  refine ⟨hand, k, t, status, s', pot, hhand, htakes, htakes.le_length, hruns, hdrop, ?_, ?_,
    hresolve, hclosed, hend.status_ne⟩
  · rintro rfl
    exact dry_of_upcoming ht (by rw [hdrop, List.drop_length])
  · obtain ⟨_, u, havailable⟩ := ensureAvailable_succeeds hopen hmove
    obtain ⟨rfl, -⟩ := ensureAvailable_eq_ok havailable
    obtain ⟨fuel, u, hbound⟩ := drawBound_succeeds (s := u)
    have hruns := hruns fuel (upcoming_lt_drawBound hround hbound)
    rw [← drawBound_eq_ok hbound] at hruns
    exact bind_eq_ok.mpr ⟨_, _, havailable, bind_eq_ok.mpr ⟨_, _, hbound,
      bind_eq_ok.mpr ⟨_, _, hruns, hresolve⟩⟩⟩

end Play

/-- An open hand of the tutorial: the daimon holds an ace and a five, and a jack is the last card
of the shoe. -/
def Session.lastJack : Session :=
  (Session.tutorialRound [270] []).putHand
    { pot := 1000, playerCards := [277, 281], daimonCards := [273, 264] }

/-- The jack turns the soft sixteen into a hard one, so the daimon takes one more card, a seven,
after the refill. -/
theorem Play.stand_exact_lastJack :
    Session.lastJack.table.Printed ∧ .stand ∈ Session.lastJack.availableMoves ∧
      ∃ status s' pot, (Play.stand {}).run Session.lastJack = .ok status s' ∧
        s'.table.hand? = some
          { pot, playerCards := [277, 281], daimonCards := [273, 264, 270, 279], status } ∧
        status ≠ .inProgress := by
  have hprinted : Session.lastJack.table.Printed :=
    Session.tutorialRound_printed (by decide) (by decide)
  have hmove : Move.stand ∈ Session.lastJack.availableMoves := by decide
  obtain ⟨hand, k, t, status, s', pot, hhand, htakes, -, -, -, -, hstand, -, hclosed, hstatus⟩ :=
    Play.stand_exact {} hprinted hmove
  cases hhand
  have hk : k = 2 := by
    cases htakes with
    | stands hstands hleast =>
      have hle : k ≤ 2 := Nat.le_of_not_lt fun hlt => hleast 2 hlt (by decide)
      obtain rfl | rfl | rfl : k = 0 ∨ k = 1 ∨ k = 2 := by omega
      · exact absurd hstands (by decide)
      · exact absurd hstands (by decide)
      · rfl
    | runsOut hnever => exact absurd (by decide) (hnever 2)
  rw [hk] at hclosed
  exact ⟨hprinted, hmove, status, s', pot, hstand, hclosed, hstatus⟩

end BloodStakes
