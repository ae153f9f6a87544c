import BloodStakes.Proofs.Run
import BloodStakes.Proofs.Width

/-!
Pots. A stake that overflows may open a hand with a pot below zero, and then blood flows the wrong
way until an effect fills the pot again. The store takes no such pot, so none is ever stored.
-/
namespace BloodStakes

/-- No pot is in debt. -/
def Table.Solvent (t : Table) : Prop := ∀ hand, t.hand? = some hand → 0 ≤ hand.pot

theorem Rules.StakeFits.pot_nonneg {rules : Rules} {handsPlayed : Nat} {bloodPool : Int}
    (h : rules.StakeFits handsPlayed bloodPool) (hwager : 0 ≤ rules.minWager)
    (hstep : 0 ≤ rules.wagerStep) :
    0 ≤ Amount.wrap (rules.wagerFor handsPlayed bloodPool * 2) := by
  have hstake := h.nonneg hwager hstep
  rw [Amount.wrap_of_fits h.pot]
  omega

namespace Session

variable {s s' : Session}

theorem settleRound_hand? (s : Session) : s.settleRound.table.hand? = s.table.hand? := by
  obtain h | ⟨round, status, -, -, -, h⟩ := s.settleRound_cases
  · rw [h]
  · rw [h, endRound_table]

theorem BloodStep.solvent (h : BloodStep s s') (hs : s.table.Solvent) : s'.table.Solvent := by
  obtain ⟨log, rfl⟩ | ⟨delta, rfl⟩ | ⟨t, rfl, hmoves⟩ := h.moves
  · exact hs
  · unfold changePot
    split
    · exact hs
    · rintro _ ⟨⟩
      exact Int.le_max_left _ _
  · intro hand hsome
    rw [settleRound_hand?, hmoves.hand] at hsome
    exact hs hand hsome

theorem Bleeds.solvent (h : s.Bleeds s') (hs : s.table.Solvent) : s'.table.Solvent := by
  induction h with
  | refl => exact hs
  | tail _ step ih => exact step.solvent ih

theorem HandStep.solvent (h : s.HandStep s') (hs : s.table.Solvent) : s'.table.Solvent := by
  cases h with
  | flow h => exact h.bleeds.solvent hs
  | dealt => exact hs
  | drawn => exact hs
  | @deal _ side _ _ hround hhand hcount h =>
    cases h with
    | @intro t hand hhand hdraws hcount hshort =>
      rintro _ ⟨⟩
      cases side <;> exact hs hand hhand

theorem PlaysOn.solvent (h : s.PlaysOn s') (hs : s.table.Solvent) : s'.table.Solvent := by
  induction h with
  | refl => exact hs
  | tail _ step ih => exact step.solvent ih

theorem Closes.solvent {status : HandStatus} (h : s.Closes status s') (hs : s.table.Solvent) :
    s'.table.Solvent := by
  cases h with
  | @intro hand _ _ hhand hplayer hdaimon =>
    rintro _ ⟨⟩
    exact hs hand hhand

theorem Concludes.solvent (h : s.Concludes s') (hs : s.table.Solvent) : s'.table.Solvent := by
  obtain ⟨t, status, hplay, -, hclose⟩ := h.closes
  exact hclose.solvent (hplay.solvent hs)

end Session

variable {house : House} {s s' t : Session} {request : Request}

theorem Enters.solvent (h : Enters house s request t) (hwager : 0 ≤ house.rules.minWager)
    (hstep : 0 ≤ house.rules.wagerStep)
    (hfits : request = .startHand → s.table.StakeFits house.rules) (hs : s.table.Solvent) :
    t.table.Solvent := by
  cases h with
  | @startHand round stake hround hopen hidle hstake =>
    rintro _ ⟨⟩
    exact hstake ▸ (hfits rfl round hround).pot_nonneg hwager hstep
  | move hmove hround hhand => exact hs
  | equipToken hplayer hround hhand => exact hs

/-- A request leaves a pot in debt only if it opens a hand whose stake overflows. -/
theorem Transition.solvent (h : Transition house s request s') (hwager : 0 ≤ house.rules.minWager)
    (hstep : 0 ≤ house.rules.wagerStep)
    (hfits : request = .startHand → s.table.StakeFits house.rules) (hs : s.table.Solvent) :
    s'.table.Solvent := by
  cases h with
  | startGame hidle => exact nofun
  | startRound hidle hgame hopen hdaimon ht hround hshoe hfire =>
    refine hfire.bleeds.solvent ?_
    rw [ht]
    exact nofun
  | closed henter hbegin h =>
    exact h.solvent (hbegin.bleeds.solvent (henter.solvent hwager hstep hfits hs))
  | opened henter hbegin hgoing hdeal =>
    have hbegun := hbegin.bleeds.solvent (henter.solvent hwager hstep hfits hs)
    exact (henter.playsOn_opened hbegin hgoing hdeal).solvent hbegun
  | drawn henter hdeal hhand hranks hbust hfire hgoing =>
    exact (henter.playsOn_drawn hdeal hfire).solvent hs
  | equipped hplayer hfire hidle hgoing => exact hfire.bleeds.solvent hs
  | deckAssigned hranks hplayer => exact hs
  | rewardClaimed hround hwon hclaim h =>
    obtain ⟨tokens, progression, htable⟩ := Session.claimed_table h
    rw [htable]
    exact hs

private theorem Changeset.and_ok {first next : Except Violation Unit}
    (h : (first >>= fun _ => next) = .ok ()) : first = .ok () ∧ next = .ok () := by
  cases first with
  | error violation => cases h
  | ok => exact ⟨rfl, h⟩

theorem Changeset.hand_of_validate {changes : Changeset} {storedRound? : Option Round}
    (h : changes.validate storedRound? = .ok ()) :
    checkPut Hand.check changes.hand = .ok () := by
  unfold validate at h
  cases hplayer : changes.player? with
  | none =>
    rw [hplayer] at h
    obtain ⟨-, h⟩ := and_ok h
    obtain ⟨-, h⟩ := and_ok h
    exact (and_ok h).2
  | some player =>
    rw [hplayer] at h
    obtain ⟨-, h⟩ := and_ok h
    obtain ⟨-, h⟩ := and_ok h
    exact (and_ok h).2

/-- The store finds fault with a pot in debt, whatever has led to it. -/
theorem Grant.Holds.solvent {grant : Grant} (h : grant.Holds house)
    (hbefore : grant.before.Solvent) : grant.report.table.Solvent := by
  obtain ⟨rng, s', hrun, htable, -, hvalid⟩ := h
  have htracks := (Session.tracks_opened grant.before rng).of_run
    (Play.request_leads grant.request) hrun
  intro hand hhand
  rw [htable] at hhand
  cases htouched : s'.touched.hand with
  | false => exact hbefore hand (htracks.hand htouched ▸ hhand)
  | true =>
    have hcheck := Changeset.hand_of_validate hvalid
    simp only [Session.changes, Change.ofTouched, htouched, hhand, Changeset.checkPut, Hand.check,
      ↓reduceIte] at hcheck
    split at hcheck
    · cases hcheck
    · next hpot => exact Int.not_lt.mp hpot

end BloodStakes
