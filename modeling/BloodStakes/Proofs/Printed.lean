import BloodStakes.Proofs.Playing

/-!
Printed cards. Only printed cards are ever played: they come from the deck or the tutorial, and
a deck is assigned only if all of its cards have a rank.
-/
namespace BloodStakes

/-- Whether a number is on a card. -/
def Face.IsPrinted (card : CardId) : Prop := (Face.ofId? card).isSome = true

instance (card : CardId) : Decidable (Face.IsPrinted card) :=
  inferInstanceAs (Decidable ((Face.ofId? card).isSome = true))

private theorem isPrinted_of_ranksOf {cards : List CardId} {ranks : List Rank}
    (h : ranksOf cards = .ok ranks) : ∀ card ∈ cards, Face.IsPrinted card := by
  induction cards generalizing ranks with
  | nil => exact nofun
  | cons card cards ih =>
    unfold ranksOf at h
    split at h
    · cases h
    · next face hface =>
      split at h
      · next rest hrest =>
        refine List.forall_mem_cons.mpr ⟨?_, ih hrest⟩
        simp [Face.IsPrinted, hface]
      · cases h

theorem exists_ranksOf {cards : List CardId} (h : ∀ card ∈ cards, Face.IsPrinted card) :
    ∃ ranks, ranksOf cards = .ok ranks := by
  induction cards with
  | nil => exact ⟨[], rfl⟩
  | cons card cards ih =>
    obtain ⟨hcard, hcards⟩ := List.forall_mem_cons.mp h
    obtain ⟨face, hface⟩ := Option.isSome_iff_exists.mp hcard
    obtain ⟨ranks, hranks⟩ := ih hcards
    exact ⟨face.rank :: ranks, by simp only [ranksOf, hface, hranks]⟩

theorem tutorialDeck_isPrinted : ∀ card ∈ tutorialDeck, Face.IsPrinted card := by decide

theorem starterDeck_isPrinted : ∀ card ∈ starterDeck, Face.IsPrinted card := by decide +kernel

/-- All cards of the deck, of the piles and of the hand are printed, even once it is closed. -/
structure Table.Printed (t : Table) : Prop where
  deck : ∀ card ∈ t.player.deck, Face.IsPrinted card
  pile : ∀ card ∈ t.pile, Face.IsPrinted card
  hand : ∀ hand, t.hand? = some hand → ∀ card ∈ hand.cards, Face.IsPrinted card

namespace Session

variable {s s' : Session}

theorem Bleeds.printed (h : s.Bleeds s') (hs : s.table.Printed) : s'.table.Printed := by
  have hdeck := congrArg (·.player.deck) h.bloodless.1
  have hpile := congrArg Table.pile h.bloodless.1
  rw [Table.pile_bloodless, Table.pile_bloodless] at hpile
  refine ⟨?_, ?_, fun hand hhand => ?_⟩
  · exact fun card hcard => hs.deck card (hdeck ▸ hcard)
  · exact fun card hcard => hs.pile card (hpile ▸ hcard)
  · obtain ⟨pot, hbefore⟩ := h.exists_hand hhand
    have hcards := hs.hand _ hbefore
    exact hcards

theorem Draws.mem_or {cards : List CardId} (h : s.Draws cards s') {card : CardId}
    (hcard : card ∈ cards ++ s'.table.pile) : card ∈ s.table.pile ∨ card ∈ tutorialDeck := by
  induction h with
  | done s => exact .inl hcard
  | @refill s s' round first shoe cards rng hround hempty hshoe _ ih =>
    obtain hmem | hmem := ih hcard
    · have hmem : card ∈ shoe := by simpa [Table.pile, Round.pile] using hmem
      unfold Refills at hshoe
      split at hshoe
      · left
        simpa [Table.pile, Round.pile, hround, hempty] using hshoe.mem_iff.mp hmem
      · right
        rw [hshoe] at hmem
        exact (List.mem_filter.mp hmem).1
    · exact .inr hmem
  | @take s s' round first shoe cards hround hshoe _ ih =>
    have hpile : s.table.pile = first :: (shoe ++ round.discard) := by
      simp [Table.pile, Round.pile, hround, hshoe]
    rw [hpile]
    rw [List.cons_append, List.mem_cons] at hcard
    obtain rfl | hcard := hcard
    · exact .inl (List.mem_cons_self ..)
    · obtain hmem | hmem := ih hcard
      · exact .inl (List.mem_cons_of_mem _ (by simpa [Table.pile, Round.pile] using hmem))
      · exact .inr hmem

theorem Draws.printed {cards : List CardId} (h : s.Draws cards s') (hs : s.table.Printed) :
    s'.table.Printed ∧ ∀ card ∈ cards, Face.IsPrinted card := by
  have hdrawn : ∀ card ∈ cards ++ s'.table.pile, Face.IsPrinted card := by
    intro card hcard
    obtain hmem | hmem := h.mem_or hcard
    · exact hs.pile card hmem
    · exact tutorialDeck_isPrinted card hmem
  obtain ⟨hcards, hpile⟩ := List.forall_mem_append.mp hdrawn
  refine ⟨⟨?_, hpile, ?_⟩, hcards⟩
  · rw [h.player]
    exact hs.deck
  · rw [h.hand?]
    exact hs.hand

theorem Deals.printed {side : Side} {count : Nat} {cards : List CardId}
    (h : s.Deals side count cards s') (hs : s.table.Printed) : s'.table.Printed := by
  cases h with
  | @intro t hand hhand hdraws hcount hshort =>
    obtain ⟨ht, hcards⟩ := hdraws.printed hs
    refine ⟨ht.deck, ht.pile, ?_⟩
    rintro _ ⟨⟩ card hcard
    rw [(hand.receive_cards_perm side cards).mem_iff] at hcard
    obtain hcard | hcard := List.mem_append.mp hcard
    · exact hcards card hcard
    · exact hs.hand hand hhand card hcard

theorem HandStep.printed (h : s.HandStep s') (hs : s.table.Printed) : s'.table.Printed := by
  cases h with
  | flow h => exact h.bleeds.printed hs
  | dealt => exact hs
  | drawn => exact hs
  | deal hround hhand hcount h => exact h.printed hs

theorem PlaysOn.printed (h : s.PlaysOn s') (hs : s.table.Printed) : s'.table.Printed := by
  induction h with
  | refl => exact hs
  | tail _ step ih => exact step.printed ih

theorem Closes.printed {status : HandStatus} (h : s.Closes status s') (hs : s.table.Printed) :
    s'.table.Printed := by
  cases h with
  | @intro hand _ _ hhand hplayer hdaimon =>
    refine ⟨hs.deck, fun card hcard => ?_, ?_⟩
    · cases hround : s.table.round? with
      | none => simp [closeHand, Table.pile, hround] at hcard
      | some round =>
        have hcard : card ∈ round.pile ++ hand.cards := by
          simpa [closeHand, Table.pile, Round.pile, hround] using hcard
        obtain hcard | hcard := List.mem_append.mp hcard
        · exact hs.pile card (by simpa [Table.pile, hround] using hcard)
        · exact hs.hand hand hhand card hcard
    · rintro _ ⟨⟩
      exact hs.hand hand hhand

end Session

variable {house : House} {s s' t : Session} {request : Request}

theorem Enters.printed (h : Enters house s request t) (hs : s.table.Printed) :
    t.table.Printed := by
  cases h with
  | startHand hround hopen hidle hstake =>
    refine ⟨hs.deck, fun card hcard => hs.pile card ?_, ?_⟩
    · simpa [Session.openHand, Table.pile, Round.pile, hround] using hcard
    · rintro _ ⟨⟩ card hcard
      cases hcard
  | move hmove hround hhand => exact hs
  | equipToken hplayer hround hhand =>
    obtain ⟨loadout, rfl⟩ := Player.equipToken_eq_ok hplayer
    exact ⟨hs.deck, hs.pile, hs.hand⟩

theorem Transition.printed (h : Transition house s request s') (hs : s.table.Printed) :
    s'.table.Printed := by
  cases h with
  | startGame hidle => exact ⟨hs.deck, nofun, nofun⟩
  | @startRound _ _ _ _ _ round shoe t _ hidle hgame hopen hdaimon ht hround hshoe hfire =>
    have hprinted : ∀ card ∈ shoe, Face.IsPrinted card := by
      intro card hcard
      split at hshoe
      · exact hs.deck card (hshoe.mem_iff.mp hcard)
      · rw [hshoe] at hcard
        exact tutorialDeck_isPrinted card hcard
    refine hfire.bleeds.printed ⟨?_, ?_, ?_⟩
    · rw [ht]
      exact hs.deck
    · simpa [Table.pile, Round.pile] using hprinted
    · rw [ht]
      intro hand hhand
      cases hhand
  | closed henter hbegin h =>
    obtain ⟨u, status, hplay, hstatus, hclose⟩ := h.closes
    exact hclose.printed (hplay.printed (hbegin.bleeds.printed (henter.printed hs)))
  | opened henter hbegin hgoing hdeal =>
    exact (henter.playsOn_opened hbegin hgoing hdeal).printed
      (hbegin.bleeds.printed (henter.printed hs))
  | drawn henter hdeal hhand hranks hbust hfire hgoing =>
    exact (henter.playsOn_drawn hdeal hfire).printed hs
  | equipped hplayer hfire hidle hgoing =>
    obtain ⟨loadout, rfl⟩ := Player.equipToken_eq_ok hplayer
    exact hfire.bleeds.printed ⟨hs.deck, hs.pile, hs.hand⟩
  | deckAssigned hranks hplayer =>
    obtain ⟨-, rfl⟩ := Player.assignDeck_eq_ok hplayer
    exact ⟨isPrinted_of_ranksOf hranks, hs.pile, hs.hand⟩
  | rewardClaimed hround hwon hclaim h =>
    obtain ⟨tokens, progression, htable⟩ := Session.claimed_table h
    rw [htable]
    refine ⟨hs.deck, fun card hcard => hs.pile card ?_, hs.hand⟩
    simpa [Table.pile, Round.pile, hround] using hcard

theorem Player.IsNew.printed {rules : Rules} {player : Player} (h : player.IsNew rules) :
    ({ player } : Table).Printed := by
  refine ⟨?_, nofun, nofun⟩
  rw [h.deck]
  exact starterDeck_isPrinted

end BloodStakes
